import Mathlib
import Retention.Duration.Reader
import Retention.Proofs.Digits
import Retention.Proofs.Trimming

/-!
# How durations are written

A `Spelling` is what a text writes as a duration: a sign and components, each a decimal number and a
unit.  `Spelling.WrittenAs` says which texts write it, by rules for numbers, units, components and
signs that know nothing of the reader.  `Duration.read_spelling` says that the reader accepts exactly
these texts, as long as the size fits, and gives what they write.

The reader finds the components one by one: a component ends where the next number begins
(`Component.read_of_writtenAs`), since no name of a unit has a digit or a point.
-/

namespace Retention

/-! ## Units -/

namespace TimeUnit

/-- The names that a unit is written with. -/
def names : TimeUnit → List (List Char)
  | nanosecond => [['n', 's']]
  | microsecond => [['u', 's'], ['\u00b5', 's'], ['\u03bc', 's']]
  | millisecond => [['m', 's']]
  | second => [['s']]
  | minute => [['m']]
  | hour => [['h']]

variable {unit : TimeUnit} {name : List Char}

theorem ofName?_iff : ofName? name = some unit ↔ name ∈ unit.names := by
  constructor
  · intro named
    unfold ofName? at named
    split at named <;> cases named
    all_goals decide
  · intro mem
    cases unit with
    | microsecond =>
      simp only [names, List.mem_cons, List.not_mem_nil, or_false] at mem
      rcases mem with rfl | rfl | rfl <;> rfl
    | _ =>
      cases List.mem_singleton.mp mem
      rfl

/-- A name has at least one character, and none that belongs to a number or is blank. -/
theorem of_mem_names (mem : name ∈ unit.names) :
    name ≠ [] ∧ ∀ c ∈ name, Component.isNumberChar c = false ∧ Text.isBlank c = false := by
  have every : ∀ name ∈ unit.names, name ≠ [] ∧
      ∀ c ∈ name, Component.isNumberChar c = false ∧ Text.isBlank c = false := by
    cases unit <;> simp [names, Component.isNumberChar, Char.isDigit, Text.isBlank]
  exact every name mem

end TimeUnit

/-! ## Numbers -/

/-- How a decimal number is written, by the digits before its point and those after it.  A number has
a digit, and a point anywhere among its digits or none. -/
inductive Numeral : (whole fraction text : List Char) → Prop
  | plain {whole : List Char} (some : whole ≠ []) (digits : ∀ c ∈ whole, c.isDigit = true) :
      Numeral whole [] whole
  | pointed {whole fraction : List Char} (some : whole ++ fraction ≠ [])
      (digits : ∀ c ∈ whole ++ fraction, c.isDigit = true) :
      Numeral whole fraction (whole ++ '.' :: fraction)

namespace Numeral

variable {whole fraction text : List Char}

theorem point_notMem {digits : List Char} (all : ∀ c ∈ digits, c.isDigit = true) :
    '.' ∉ digits := by
  intro mem
  cases all '.' mem

theorem isNumberChar_of_mem (numeral : Numeral whole fraction text) {c : Char} (mem : c ∈ text) :
    Component.isNumberChar c = true := by
  rw [Component.isNumberChar, Bool.or_eq_true, beq_iff_eq]
  cases numeral with
  | plain _ digits => exact .inl (digits c mem)
  | pointed _ digits =>
    rcases List.mem_append.mp mem with before | later
    · exact .inl (digits c (List.mem_append_left _ before))
    · rcases List.mem_cons.mp later with point | after
      · exact .inr point
      · exact .inl (digits c (List.mem_append_right _ after))

theorem ne_nil (numeral : Numeral whole fraction text) : text ≠ [] := by
  cases numeral with
  | plain some _ => exact some
  | pointed _ _ => simp

/-- The digits of a number are those on either side of its first point. -/
theorem cut_eq (numeral : Numeral whole fraction text) :
    (Text.cutAt? '.' text).getD (text, []) = (whole, fraction) := by
  cases numeral with
  | plain _ digits => rw [Text.cutAt?_eq_none_iff.mpr (point_notMem digits), Option.getD_none]
  | pointed _ digits =>
    have before : '.' ∉ whole := fun mem => point_notMem digits (List.mem_append_left _ mem)
    rw [Text.cutAt?_eq_some_iff.mpr ⟨rfl, before⟩, Option.getD_some]

/-- A number has a digit, and no second point. -/
theorem isWhole (numeral : Numeral whole fraction text) :
    ((whole.isEmpty && fraction.isEmpty) || fraction.contains '.') = false := by
  cases numeral with
  | plain some _ => simp [some]
  | pointed some digits =>
    have after : '.' ∉ fraction := fun mem => point_notMem digits (List.mem_append_right _ mem)
    simpa [after] using some

/-- A run of digits and points with a digit and no second point is a number. -/
theorem of_cut (run : ∀ c ∈ text, Component.isNumberChar c = true)
    (cut : (Text.cutAt? '.' text).getD (text, []) = (whole, fraction))
    (isWhole : ((whole.isEmpty && fraction.isEmpty) || fraction.contains '.') = false) :
    Numeral whole fraction text := by
  have digit {digits : List Char} (among : digits ⊆ text) (pointless : '.' ∉ digits) :
      ∀ c ∈ digits, c.isDigit = true := by
    intro c mem
    have number := run c (among mem)
    rw [Component.isNumberChar, Bool.or_eq_true, beq_iff_eq] at number
    rcases number with digit | rfl
    · exact digit
    · exact absurd mem pointless
  simp only [Bool.or_eq_false_iff, Bool.and_eq_false_iff, List.isEmpty_eq_false_iff,
    List.contains_eq_mem, decide_eq_false_iff_not] at isWhole
  obtain ⟨some, second⟩ := isWhole
  cases found : Text.cutAt? '.' text with
  | none =>
    rw [found] at cut
    cases cut
    exact .plain (some.resolve_right fun empty => empty rfl)
      (digit (List.Subset.refl _) (Text.cutAt?_eq_none_iff.mp found))
  | some parts =>
    rw [found] at cut
    cases cut
    obtain ⟨rfl, first⟩ := Text.cutAt?_eq_some_iff.mp found
    refine .pointed ?_ (List.forall_mem_append.mpr ⟨?_, ?_⟩)
    · simpa [or_iff_not_imp_left] using some
    · exact digit (List.subset_append_left _ _) first
    · exact digit (by simp) second

end Numeral

/-! ## Components -/

namespace Component

open Text

/-- A component is written as a number and, right after it, a name of the unit. -/
inductive WrittenAs : Component → List Char → Prop
  | mk {whole fraction number name : List Char} {unit : TimeUnit}
      (numeral : Numeral whole fraction number) (named : name ∈ unit.names) :
      WrittenAs ⟨whole, fraction, unit⟩ (number ++ name)

/-- The next text starts with a number, if there is one. -/
abbrev StartsNumber (rest : List Char) : Prop :=
  Ends (fun c => !isNumberChar c) rest

variable {c : Component} {text rest : List Char}

/-- The text of a component starts with its number and ends with the name of its unit. -/
theorem WrittenAs.exists_ends (written : c.WrittenAs text) :
    ∃ first last middle, text = first :: (middle ++ [last]) ∧ isNumberChar first = true ∧
      isNumberChar last = false ∧ isBlank last = false := by
  obtain ⟨numeral, named⟩ := written
  obtain ⟨first, number, rfl⟩ := List.exists_cons_of_ne_nil numeral.ne_nil
  obtain ⟨some, letters⟩ := TimeUnit.of_mem_names named
  obtain ⟨letters', last, rfl⟩ := List.eq_nil_or_concat _ |>.resolve_left some
  obtain ⟨letter, shown⟩ := letters last (by simp)
  exact ⟨first, last, number ++ letters', by simp,
    numeral.isNumberChar_of_mem List.mem_cons_self, letter, shown⟩

theorem WrittenAs.isDigit_fraction (written : c.WrittenAs text) :
    ∀ d ∈ c.fraction, d.isDigit = true := by
  obtain ⟨numeral, -⟩ := written
  cases numeral with
  | plain _ _ => nofun
  | pointed _ digits => exact fun d mem => digits d (List.mem_append_right _ mem)

theorem WrittenAs.isDigit_whole (written : c.WrittenAs text) :
    ∀ d ∈ c.whole, d.isDigit = true := by
  obtain ⟨numeral, -⟩ := written
  cases numeral with
  | plain _ digits => exact digits
  | pointed _ digits => exact fun d mem => digits d (List.mem_append_left _ mem)

theorem read_of_writtenAs (written : c.WrittenAs text) (next : StartsNumber rest) :
    read (text ++ rest) = .ok (c, rest) := by
  obtain @⟨whole, fraction, number, name, unit, numeral, named⟩ := written
  obtain ⟨some, letters⟩ := TimeUnit.of_mem_names named
  have stops : Ends isNumberChar (name ++ rest) := by
    obtain ⟨letter, name, rfl⟩ := List.exists_cons_of_ne_nil some
    exact ends_cons (letters letter List.mem_cons_self).1
  have all : ∀ c ∈ number, isNumberChar c = true := fun _ => numeral.isNumberChar_of_mem
  have others : ∀ c ∈ name, (!isNumberChar c) = true := by
    intro c mem
    rw [(letters c mem).1]
    rfl
  have number_eq : (number ++ (name ++ rest)).takeWhile isNumberChar = number := by
    rw [takeWhile_append_of_ends stops, takeWhile_of_all all]
  have rest_eq : (number ++ (name ++ rest)).dropWhile isNumberChar = name ++ rest := by
    rw [dropWhile_append_of_ends stops, dropWhile_of_all all, List.nil_append]
  have name_eq : (name ++ rest).takeWhile (fun c => !isNumberChar c) = name := by
    rw [takeWhile_append_of_ends next, takeWhile_of_all others]
  have after_eq : (name ++ rest).dropWhile (fun c => !isNumberChar c) = rest := by
    rw [dropWhile_append_of_ends next, dropWhile_of_all others, List.nil_append]
  have nonempty : name.isEmpty = false := by simpa using some
  unfold read
  rw [List.append_assoc]
  simp only [number_eq, rest_eq, numeral.cut_eq, numeral.isWhole, name_eq, nonempty,
    TimeUnit.ofName?_iff.mpr named, after_eq, Bool.false_eq_true, if_false]

theorem writtenAs_of_read (found : read text = .ok (c, rest)) :
    ∃ first, text = first ++ rest ∧ c.WrittenAs first ∧ StartsNumber rest := by
  unfold read at found
  simp only at found
  split at found
  · cases found
  next isWhole =>
    split at found
    · cases found
    next nonempty =>
      split at found
      · cases found
      next unit named =>
        cases found
        have numeral := Numeral.of_cut (fun c => List.mem_takeWhile_imp) rfl
          (Bool.eq_false_of_not_eq_true isWhole)
        refine ⟨_, ?_, .mk numeral (TimeUnit.ofName?_iff.mp named), ?_⟩
        · rw [List.append_assoc, List.takeWhile_append_dropWhile, List.takeWhile_append_dropWhile]
        · intro c first
          have stops := List.head?_dropWhile_not (fun c => !isNumberChar c)
            (text.dropWhile isNumberChar)
          rw [first] at stops
          exact stops

end Component

/-! ## What components are worth -/

namespace Component

/-- The nanoseconds of a component: its whole part in full, and as many digits of its fraction as are
told, rounded down. -/
def worth (c : Component) (places : Nat) : Nat :=
  Text.digitsValue c.whole * c.unit.nanos +
    Text.digitsValue (c.fraction.take places) * c.unit.nanos / 10 ^ min places c.fraction.length

/-- The reader goes by the first 18 digits of a fraction. -/
theorem nanos_eq_worth (c : Component) : c.nanos = c.worth 18 := by
  rw [nanos, worth, fractionProduct, fractionDigits, List.length_take]
  rfl

/-- Zeros at the start of a number do not count. -/
theorem worth_zeros (c : Component) (zeros places : Nat) :
    ({ c with whole := List.replicate zeros '0' ++ c.whole } : Component).worth places =
      c.worth places := by
  have value : Text.digitsValue (List.replicate zeros '0' ++ c.whole) =
      Text.digitsValue c.whole := by
    induction zeros with
    | zero => rfl
    | succ zeros ih =>
      rw [← ih, List.replicate_succ, List.cons_append]
      rfl
  rw [worth, value]
  rfl

end Component

/-! ## Sums of components -/

namespace Duration

open Component

variable {components : List Component} {texts : List (List Char)} {text rest : List Char}

/-- What components are worth together. -/
def sizeOf (components : List Component) : Nat :=
  (components.map fun c => c.worth 18).sum

theorem sizeOf_eq_sum (components : List Component) :
    sizeOf components = (components.map Component.nanos).sum :=
  congrArg List.sum (List.map_congr_left fun c _ => (nanos_eq_worth c).symm)

theorem sizeOf_cons (c : Component) (components : List Component) :
    sizeOf (c :: components) = c.nanos + sizeOf components := by
  rw [sizeOf_eq_sum, sizeOf_eq_sum, List.map_cons, List.sum_cons]

theorem startsNumber_flatten (written : List.Forall₂ Component.WrittenAs components texts) :
    StartsNumber texts.flatten := by
  cases written with
  | nil => exact Text.ends_nil
  | cons first _ =>
    obtain ⟨c, _, _, rfl, number, -⟩ := first.exists_ends
    exact Text.ends_cons (by rw [number]; rfl)

/-- A text is written by no other components. -/
theorem components_unique {others : List Component} {texts' : List (List Char)}
    (written : List.Forall₂ Component.WrittenAs components texts)
    (written' : List.Forall₂ Component.WrittenAs others texts')
    (same : texts.flatten = texts'.flatten) : components = others := by
  induction written generalizing others texts' with
  | nil =>
    cases written' with
    | nil => rfl
    | cons first _ =>
      obtain ⟨_, _, _, rfl, -⟩ := first.exists_ends
      cases same
  | @cons c text components texts first later ih =>
    have read := read_of_writtenAs first (startsNumber_flatten later)
    cases written' with
    | nil =>
      obtain ⟨_, _, _, rfl, -⟩ := first.exists_ends
      cases same
    | cons first' later' =>
      have read' := read_of_writtenAs first' (startsNumber_flatten later')
      rw [← List.flatten_cons, same, List.flatten_cons, read'] at read
      obtain ⟨rfl, rest⟩ := Prod.mk.inj (Except.ok.inj read)
      rw [ih later' rest.symm]

theorem sumComponents_of_read {c : Component} (found : Component.read text = .ok (c, rest))
    (total : Nat) :
    sumComponents total text =
      if total + c.nanos < sumBound then sumComponents (total + c.nanos) rest
      else .error .outOfRange := by
  cases text with
  | nil => cases found
  | cons first text =>
    rw [sumComponents]
    split
    next failed =>
      rw [found] at failed
      cases failed
    next same =>
      rw [found] at same
      cases same
      rfl

/-- The components that are written are added up as long as their sum stays below the bound. -/
theorem sumComponents_of_writtenAs (written : List.Forall₂ Component.WrittenAs components texts)
    {total : Nat} (fits : total < sumBound) :
    sumComponents total texts.flatten =
      if total + sizeOf components < sumBound then .ok (total + sizeOf components)
      else .error .outOfRange := by
  induction written generalizing total with
  | nil =>
    rw [List.flatten_nil, sumComponents]
    exact (if_pos fits).symm
  | @cons c text components texts first later ih =>
    rw [List.flatten_cons, sumComponents_of_read
      (read_of_writtenAs first (startsNumber_flatten later)), sizeOf_cons, ← Nat.add_assoc]
    by_cases below : total + c.nanos < sumBound
    · rw [if_pos below, ih below]
    · rw [if_neg below, if_neg (by omega)]

/-- What is added up is written. -/
theorem writtenAs_of_sumComponents {total size : Nat} (summed : sumComponents total text = .ok size) :
    ∃ components texts, List.Forall₂ Component.WrittenAs components texts ∧
      text = texts.flatten ∧ size = total + sizeOf components := by
  induction total, text using sumComponents.induct with
  | case1 total =>
    rw [sumComponents] at summed
    cases summed
    exact ⟨[], [], .nil, rfl, rfl⟩
  | case2 total first text e failed =>
    rw [sumComponents] at summed
    split at summed
    · cases summed
    next found =>
      rw [failed] at found
      cases found
  | case3 total first text c rest found below ih =>
    rw [sumComponents_of_read found, if_pos below] at summed
    obtain ⟨components, texts, written, rfl, rfl⟩ := ih summed
    obtain ⟨own, split, first, -⟩ := writtenAs_of_read found
    refine ⟨c :: components, own :: texts, .cons first written, split, ?_⟩
    rw [Nat.add_assoc, sizeOf_cons]
  | case4 total first text c rest found above =>
    rw [sumComponents_of_read found, if_neg above] at summed
    cases summed

/-! ## Sizes -/

/-- The size of a duration is written as a lone zero, or as one or more components. -/
inductive SizeWrittenAs : List Component → List Char → Prop
  | zero : SizeWrittenAs [] ['0']
  | sum {components : List Component} {texts : List (List Char)} (some : components ≠ [])
      (written : List.Forall₂ Component.WrittenAs components texts) :
      SizeWrittenAs components texts.flatten

theorem getLast_flatten (written : List.Forall₂ Component.WrittenAs components texts) :
    ∀ last ∈ texts.flatten.getLast?, Text.isBlank last = false := by
  induction written with
  | nil => simp
  | @cons c text components texts first later ih =>
    intro last mem
    rw [List.flatten_cons, List.getLast?_append, Option.mem_def, Option.or_eq_some_iff] at mem
    rcases mem with after | ⟨-, own⟩
    · exact ih last after
    · rcases first.exists_ends with ⟨_, _, _, rfl, -, -, shown⟩
      rw [← List.cons_append, List.getLast?_concat] at own
      cases own
      exact shown

/-- A size starts with a digit or a point. -/
theorem SizeWrittenAs.exists_cons (written : SizeWrittenAs components text) :
    ∃ first rest, text = first :: rest ∧ Component.isNumberChar first = true := by
  cases written with
  | zero => exact ⟨'0', [], rfl, rfl⟩
  | sum some written =>
    cases written with
    | nil => cases some rfl
    | cons own _ =>
      rcases own.exists_ends with ⟨first, _, _, rfl, number, -⟩
      exact ⟨first, _, rfl, number⟩

/-- A size does not end with a blank. -/
theorem SizeWrittenAs.getLast_not_blank (written : SizeWrittenAs components text) :
    ∀ last ∈ text.getLast?, Text.isBlank last = false := by
  cases written with
  | zero =>
    rintro _ ⟨⟩
    rfl
  | sum _ written => exact getLast_flatten written

/-- A component has at least two characters, so it is not taken for the lone zero. -/
theorem flatten_ne_zero (some : components ≠ [])
    (written : List.Forall₂ Component.WrittenAs components texts) :
    texts.flatten ≠ ['0'] ∧ texts.flatten ≠ [] := by
  cases written with
  | nil => cases some rfl
  | cons own _ =>
    obtain ⟨_, _, _, rfl, -⟩ := own.exists_ends
    simp

theorem SizeWrittenAs.unique {others : List Component} (written : SizeWrittenAs components text)
    (written' : SizeWrittenAs others text) : components = others := by
  cases written with
  | zero =>
    generalize zero : ['0'] = text at written'
    cases written' with
    | zero => rfl
    | sum some written => exact absurd zero.symm (flatten_ne_zero some written).1
  | @sum components texts some written =>
    generalize same : texts.flatten = text at written'
    cases written' with
    | zero => exact absurd same (flatten_ne_zero some written).1
    | sum _ written' => exact components_unique written written' same

theorem SizeWrittenAs.exists_writtenAs (written : SizeWrittenAs components text) :
    ∀ c ∈ components, ∃ own, c.WrittenAs own := by
  cases written with
  | zero => nofun
  | sum some written =>
    clear some
    induction written with
    | nil => nofun
    | cons first _ ih => exact List.forall_mem_cons.mpr ⟨⟨_, first⟩, ih⟩

theorem readSize_of_writtenAs (written : SizeWrittenAs components text) :
    readSize text =
      if sizeOf components ≤ maxNanos then .ok (sizeOf components) else .error .outOfRange := by
  cases written with
  | zero => rfl
  | @sum components texts some written =>
    have long := flatten_ne_zero some written
    have bound : maxNanos < sumBound := by decide
    rw [readSize, if_neg long.1, if_neg long.2,
      sumComponents_of_writtenAs written (Nat.lt_of_le_of_lt (Nat.zero_le _) bound), Nat.zero_add]
    by_cases below : sizeOf components < sumBound
    · rw [if_pos below]
    · rw [if_neg below, if_neg (by omega)]

theorem writtenAs_of_readSize {size : Nat} (found : readSize text = .ok size) :
    ∃ components, SizeWrittenAs components text ∧ size = sizeOf components := by
  unfold readSize at found
  split at found
  next zero =>
    cases found
    exact ⟨[], zero ▸ .zero, rfl⟩
  next =>
    split at found
    · cases found
    next nonempty =>
      split at found
      · cases found
      next total summed =>
        split at found
        · cases found
          obtain ⟨components, texts, written, rfl, total⟩ := writtenAs_of_sumComponents summed
          have some : components ≠ [] := by
            rintro rfl
            cases written
            exact nonempty rfl
          exact ⟨components, .sum some written, total.trans (Nat.zero_add _)⟩
        · cases found

end Duration

/-! ## Durations -/

/-- What a text writes as a duration. -/
structure Spelling where
  negative : Bool
  components : List Component

namespace Spelling

/-- The nanoseconds of a duration without its sign. -/
def size (s : Spelling) : Nat := Duration.sizeOf s.components

def nanos (s : Spelling) : Int :=
  if s.negative then -(s.size : Int) else s.size

/-- The signs of a duration: a minus, or a plus or nothing. -/
def signs : (negative : Bool) → List (List Char)
  | true => [['-']]
  | false => [[], ['+']]

/-- A duration is written as a sign and a size, with blanks around them. -/
inductive WrittenAs (s : Spelling) : List Char → Prop
  | mk {before sign size after : List Char} (blankBefore : ∀ c ∈ before, Text.isBlank c = true)
      (blankAfter : ∀ c ∈ after, Text.isBlank c = true) (signed : sign ∈ signs s.negative)
      (written : Duration.SizeWrittenAs s.components size) :
      WrittenAs s (before ++ (sign ++ size) ++ after)

/-- Components alone write a duration. -/
theorem writtenAs_flatten {components : List Component} {texts : List (List Char)}
    (some : components ≠ []) (written : List.Forall₂ Component.WrittenAs components texts) :
    (Spelling.mk false components).WrittenAs texts.flatten := by
  simpa using @WrittenAs.mk (.mk false components) [] [] _ [] (by simp) (by simp) List.mem_cons_self
    (.sum some written)

theorem WrittenAs.exists_writtenAs {s : Spelling} {text : List Char} (written : s.WrittenAs text) :
    ∀ c ∈ s.components, ∃ own, c.WrittenAs own := by
  cases written with
  | mk _ _ _ sized => exact sized.exists_writtenAs

end Spelling

namespace Duration

open Spelling

variable {negative : Bool} {components : List Component} {sign size : List Char}

theorem cutSign_of_mem_signs (signed : sign ∈ signs negative)
    (sized : SizeWrittenAs components size) : cutSign (sign ++ size) = (negative, size) := by
  cases negative with
  | true =>
    cases List.mem_singleton.mp signed
    rfl
  | false =>
    simp only [signs, List.mem_cons, List.not_mem_nil, or_false] at signed
    rcases signed with rfl | rfl
    · rcases sized.exists_cons with ⟨first, rest, rfl, number⟩
      rw [List.nil_append]
      unfold cutSign
      split
      next same =>
        cases same
        cases number
      next same =>
        cases same
        cases number
      next => rfl
    · rfl

theorem mem_signs_of_cutSign {text : List Char} (cut : cutSign text = (negative, size)) :
    ∃ sign ∈ signs negative, text = sign ++ size := by
  unfold cutSign at cut
  split at cut
  · cases cut
    exact ⟨['-'], List.mem_cons_self, rfl⟩
  · cases cut
    exact ⟨['+'], List.mem_cons_of_mem _ List.mem_cons_self, rfl⟩
  · cases cut
    exact ⟨[], List.mem_cons_self, rfl⟩

theorem isBlank_of_mem_signs (signed : sign ∈ signs negative) {c : Char} (mem : c ∈ sign) :
    Text.isBlank c = false := by
  cases negative with
  | true =>
    cases List.mem_singleton.mp signed
    cases List.mem_singleton.mp mem
    rfl
  | false =>
    simp only [signs, List.mem_cons, List.not_mem_nil, or_false] at signed
    rcases signed with rfl | rfl
    · cases mem
    · cases List.mem_singleton.mp mem
      rfl

theorem isBlank_of_isNumberChar {c : Char} (number : Component.isNumberChar c = true) :
    Text.isBlank c = false := by
  rw [Component.isNumberChar, Bool.or_eq_true, beq_iff_eq] at number
  rcases number with digit | rfl
  · exact Text.isBlank_of_isDigit digit
  · rfl

/-- A written duration is what is left of its text without the blanks around it. -/
theorem trim_of_writtenAs {s : Spelling} {text : List Char} (written : s.WrittenAs text) :
    ∃ sign size, Text.trim text = sign ++ size ∧ sign ++ size ≠ [] ∧ sign ∈ signs s.negative ∧
      SizeWrittenAs s.components size := by
  obtain @⟨before, sign, size, after, blankBefore, blankAfter, signed, sized⟩ := written
  rcases sized.exists_cons with ⟨first, rest, starts, number⟩
  refine ⟨sign, size, ?_, by simp [starts], signed, sized⟩
  rw [Text.trim_eq_iff]
  refine ⟨before, after, rfl, blankBefore, blankAfter, ?_, ?_⟩
  · intro c head
    cases sign with
    | nil =>
      rw [starts] at head
      cases head
      exact isBlank_of_isNumberChar number
    | cons own sign =>
      cases head
      exact isBlank_of_mem_signs signed List.mem_cons_self
  · intro c last
    apply sized.getLast_not_blank c
    rw [starts] at last ⊢
    rwa [List.getLast?_append, List.getLast?_cons, Option.some_or, ← List.getLast?_cons] at last

/-- A text writes one duration only. -/
theorem spelling_unique {s other : Spelling} {text : List Char} (written : s.WrittenAs text)
    (written' : other.WrittenAs text) : s = other := by
  rcases trim_of_writtenAs written with ⟨sign, size, trimmed, -, signed, sized⟩
  rcases trim_of_writtenAs written' with ⟨sign', size', trimmed', -, signed', sized'⟩
  have cut := cutSign_of_mem_signs signed sized
  rw [← trimmed, trimmed', cutSign_of_mem_signs signed' sized'] at cut
  rcases Prod.mk.inj cut with ⟨negative, rfl⟩
  cases s
  cases other
  exact congr (congrArg Spelling.mk negative.symm) (sized.unique sized')

theorem read_of_writtenAs {s : Spelling} {text : String} (written : s.WrittenAs text.toList) :
    read text = if s.size ≤ maxNanos then .ok ⟨s.nanos⟩ else .error .outOfRange := by
  rcases trim_of_writtenAs written with ⟨sign, size, trimmed, nonempty, signed, sized⟩
  have cut := cutSign_of_mem_signs signed sized
  rcases List.exists_cons_of_ne_nil nonempty with ⟨c, cs, shown⟩
  rw [shown] at trimmed cut
  unfold read
  rw [trimmed]
  simp only [cut, readSize_of_writtenAs sized]
  by_cases fits : sizeOf s.components ≤ maxNanos
  · rw [if_pos fits, Spelling.size, if_pos fits]
    rfl
  · rw [if_neg fits, Spelling.size, if_neg fits]
    rfl

theorem exists_spelling_of_read {text : String} {d : Duration} (found : read text = .ok d) :
    ∃ s : Spelling, s.WrittenAs text.toList := by
  unfold read at found
  split at found
  · cases found
  next c cs trimmed =>
    simp only at found
    cases sized : readSize (cutSign (c :: cs)).2 with
    | error e =>
      rw [sized] at found
      cases found
    | ok size =>
      obtain ⟨components, written, -⟩ := writtenAs_of_readSize sized
      obtain ⟨sign, signed, core⟩ := mem_signs_of_cutSign (rfl : cutSign (c :: cs) = (_, _))
      obtain ⟨before, after, whole, blankBefore, blankAfter, -⟩ := Text.trim_eq_iff.mp trimmed
      rw [whole, core]
      exact ⟨⟨_, components⟩, .mk blankBefore blankAfter signed written⟩

/-- What is read fits a signed word of 64 bits, and so does its opposite. -/
theorem natAbs_le_maxNanos {text : String} {d : Duration} (found : read text = .ok d) :
    d.nanos.natAbs ≤ maxNanos := by
  obtain ⟨s, written⟩ := exists_spelling_of_read found
  rw [read_of_writtenAs written] at found
  split at found
  next fits =>
    cases found
    unfold Spelling.nanos
    split
    · rw [Int.natAbs_neg, Int.natAbs_natCast]
      exact fits
    · rw [Int.natAbs_natCast]
      exact fits
  next => cases found

/-- The reader accepts exactly the texts that write a duration of at most `2 ^ 63 - 1` nanoseconds,
with either sign, and reads what they write.  A text that writes a longer one is out of range, and any
other text is refused.  Zeros at the start of a number do not count. -/
theorem read_spelling (text : String) :
    (∀ d, read text = .ok d ↔
      ∃ s : Spelling, s.WrittenAs text.toList ∧ s.size ≤ 2 ^ 63 - 1 ∧ d = ⟨s.nanos⟩) ∧
    (∀ s : Spelling, s.WrittenAs text.toList → 2 ^ 63 - 1 < s.size →
      read text = .error .outOfRange) ∧
    ((¬∃ s : Spelling, s.WrittenAs text.toList) → ∃ e, read text = .error e) ∧
    ∀ (c : Component) (zeros : Nat),
      ({ c with whole := List.replicate zeros '0' ++ c.whole } : Component).worth 18 =
        c.worth 18 := by
  have most : maxNanos = 2 ^ 63 - 1 := rfl
  rw [← most]
  refine ⟨?_, ?_, ?_, fun c zeros => c.worth_zeros zeros 18⟩
  · intro d
    constructor
    · intro found
      obtain ⟨s, written⟩ := exists_spelling_of_read found
      rw [read_of_writtenAs written] at found
      split at found
      next fits =>
        cases found
        exact ⟨s, written, fits, rfl⟩
      next => cases found
    · rintro ⟨s, written, fits, rfl⟩
      rw [read_of_writtenAs written, if_pos fits]
  · intro s written above
    rw [read_of_writtenAs written, if_neg (Nat.not_le.mpr above)]
  · intro unwritten
    cases found : read text with
    | error e => exact ⟨e, rfl⟩
    | ok d => exact absurd (exists_spelling_of_read found) unwritten

end Duration

/-! ## Rehearsed durations -/

namespace Rehearsed

/-- Two components of which the first has a point and no whole part. -/
def halfHour : List Component := [⟨[], ['5'], .hour⟩, ⟨['0', '7'], [], .microsecond⟩]

theorem halfHour_written :
    (Spelling.mk true halfHour).WrittenAs "\t-.5h07\u00b5s\u3000".toList := by
  have first : Component.WrittenAs ⟨[], ['5'], .hour⟩ ['.', '5', 'h'] :=
    .mk (.pointed (by decide) (by simp)) List.mem_cons_self
  have second : Component.WrittenAs ⟨['0', '7'], [], .microsecond⟩ ['0', '7', '\u00b5', 's'] :=
    .mk (.plain (by decide) (by simp)) (by decide)
  have size : Duration.SizeWrittenAs halfHour ['.', '5', 'h', '0', '7', '\u00b5', 's'] :=
    .sum (by decide) (.cons first (.cons second .nil))
  exact @Spelling.WrittenAs.mk (.mk true halfHour) ['\t'] ['-'] _ ['\u3000'] (by simp; rfl)
    (by simp; rfl) List.mem_cons_self size

/-- A number with leading zeros that is one too large. -/
def tooLong : List Component := [⟨"009223372036854775808".toList, [], .nanosecond⟩]

theorem tooLong_written :
    (Spelling.mk false tooLong).WrittenAs "009223372036854775808ns".toList := by
  have only : Component.WrittenAs ⟨"009223372036854775808".toList, [], .nanosecond⟩
      ("009223372036854775808".toList ++ ['n', 's']) :=
    .mk (.plain (by decide) (by simp)) List.mem_cons_self
  exact Spelling.writtenAs_flatten (by decide) (.cons only .nil)

end Rehearsed

namespace Duration

open Rehearsed in
theorem read_spelling_rehearsed :
    read "\t-.5h07\u00b5s\u3000" = .ok ⟨-1800000007000⟩ ∧
      (Spelling.mk false tooLong).WrittenAs "009223372036854775808ns".toList ∧
      2 ^ 63 - 1 < (Spelling.mk false tooLong).size ∧
      read "009223372036854775808ns" = .error .outOfRange := by
  obtain ⟨accepted, -, -, -⟩ := read_spelling "\t-.5h07\u00b5s\u3000"
  obtain ⟨-, refused, -, -⟩ := read_spelling "009223372036854775808ns"
  have long : 2 ^ 63 - 1 < (Spelling.mk false tooLong).size := by decide +kernel
  exact ⟨(accepted _).mpr ⟨_, halfHour_written, by decide +kernel, by decide +kernel⟩,
    tooLong_written, long, refused _ tooLong_written long⟩

end Duration

end Retention
