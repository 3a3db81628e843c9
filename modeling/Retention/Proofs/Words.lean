import Retention.Proofs.ByteOffsets
import Retention.Proofs.Fractions

/-!
# Durations in words and bytes

`Duration.read` counts in natural numbers and goes along a list of characters.  A program has words
for the numbers, in which a product can wrap, and cuts its text at byte offsets, which can lie within
a character.  `Words.Reads` is the reader in words of 128 and 64 bits and in bytes.  Where it checks an
operation it refuses the text, and where it does not check one that goes wrong it is trapped.

A component's digits and unit bound every number that is not checked (`Words.worth_eq`), and an offset
is only taken from a search (`Words.component_eq`).  So no turn of the loop is trapped
(`Words.SafeTurn`), the loop ends, and the reader comes to what `Duration.read` says
(`read_untrapped`).
-/

namespace Retention.Duration

namespace Words

open String (utf8Len utf8EncodeChar)

/-! ## What goes wrong -/

/-- What goes wrong in an operation that is not checked. -/
inductive Trap where
  | overflow
  | divisionByZero
  /-- There is no byte at an offset. -/
  | outOfBounds
  /-- A text is cut within a character or past its end. -/
  | offBoundary
  deriving DecidableEq, Repr

/-- Why a reader in words stops without a duration. -/
inductive Fault where
  | trap (trap : Trap)
  | refused (error : DurationError)
  deriving DecidableEq, Repr

/-! ## Words -/

abbrev Word := BitVec 128

def word (n : Nat) : Word := .ofNat 128 n

/-- A product, with what becomes of one that does not fit a word. -/
def product (overflow : Fault) (a b : Word) : Except Fault Word :=
  if a.umulOverflow b then .error overflow else .ok (a * b)

/-- A sum, with what becomes of one that does not fit a word. -/
def sum (overflow : Fault) (a b : Word) : Except Fault Word :=
  if a.uaddOverflow b then .error overflow else .ok (a + b)

def quotient (a b : Word) : Except Fault Word :=
  if b = 0 then .error (.trap .divisionByZero) else .ok (a / b)

/-- A power of ten, by multiplications that are not checked. -/
def powerOfTen : (exponent : Nat) → Except Fault Word
  | 0 => .ok 1
  | exponent + 1 => (powerOfTen exponent).bind (product (.trap .overflow) 10)

/-- The word that a text writes in decimal, after a plus or not.  A text that writes none, or one too
great for a word, is out of range. -/
def readWord (text : List Char) : Except Fault Word :=
  let digits := if text.head? = some '+' then text.tail else text
  if digits ≠ [] ∧ digits.all Char.isDigit ∧ Text.digitsValue digits < sumBound then
    .ok (word (Text.digitsValue digits))
  else .error (.refused .outOfRange)

/-! ## The reader -/

/-- The two sides of a text at a byte offset. -/
def cut (offset : Nat) (text : List Char) : Except Fault (List Char × List Char) :=
  match Text.cutAtByte? offset text with
  | some parts => .ok parts
  | none => .error (.trap .offBoundary)

/-- The offset at which the number at the start of a text ends. -/
def numberEnd (text : List Char) : Nat :=
  (Text.findByte? (fun c => !Component.isNumberChar c) text).getD (utf8Len text)

/-- The offset at which the name of a unit at the start of a text ends. -/
def unitEnd (text : List Char) : Nat :=
  (Text.findByte? Component.isNumberChar text).getD (utf8Len text)

/-- The offset at which the fraction digits that count end. -/
def fractionEnd (c : Component) : Nat := min (utf8Len c.fraction) 18

/-- The component at the start of a text, and the text after it. -/
def component (text : List Char) : Except Fault (Component × List Char) := do
  let (number, named) ← cut (numberEnd text) text
  let parts := (Text.cutAt? '.' number).getD (number, [])
  if (parts.1.isEmpty && parts.2.isEmpty) || parts.2.contains '.' then
    .error (.refused (.expectedNumber (String.ofList (number ++ named))))
  else do
    let (name, rest) ← cut (unitEnd named) named
    if name.isEmpty then .error (.refused (.missingUnit (String.ofList number)))
    else
      match TimeUnit.ofName? name with
      | none => .error (.refused (.unknownUnit (String.ofList name)))
      | some unit => .ok (⟨parts.1, parts.2, unit⟩, rest)

/-- The exponent of the power of ten that fraction digits are divided by, from their count of bytes
as a word of 32 bits. -/
def exponent (digits : List Char) : Nat :=
  if utf8Len digits < 2 ^ 32 then utf8Len digits else 18

/-- What fraction digits are worth. -/
def share (digits : List Char) (scale : Word) : Except Fault Word := do
  let number ← readWord digits
  let divisor ← powerOfTen (exponent digits)
  let scaled ← product (.trap .overflow) number scale
  quotient scaled divisor

/-- The whole part of a component; nothing is zero. -/
def wholeWord (c : Component) : Except Fault Word :=
  if c.whole.isEmpty then .ok 0 else readWord c.whole

/-- A value with what the fraction of a component is worth. -/
def addShare (value : Word) (c : Component) : Except Fault Word := do
  let (digits, _) ← cut (fractionEnd c) c.fraction
  if digits.isEmpty then .ok value
  else (share digits (word c.unit.nanos)).bind (sum (.refused .outOfRange) value)

/-- What a component is worth. -/
def worth (c : Component) : Except Fault Word := do
  let whole ← wholeWord c
  let value ← product (.refused .outOfRange) whole (word c.unit.nanos)
  addShare value c

/-- A turn of the loop: the total with the component at the start of a text, and the text after it. -/
def turn (total : Word) (text : List Char) : Except Fault (Word × List Char) := do
  let (c, rest) ← component text
  let value ← worth c
  let total ← sum (.refused .outOfRange) total value
  .ok (total, rest)

/-- How the loop ends: with the total, where nothing is left of the text, or with what stops it. -/
inductive Loop : (total : Word) → (text : List Char) → (ending : Except Fault Word) → Prop
  | done {total : Word} : Loop total [] (.ok total)
  | stop {total : Word} {text : List Char} {fault : Fault} (left : text ≠ [])
      (stopped : turn total text = .error fault) : Loop total text (.error fault)
  | next {total total' : Word} {text rest : List Char} {ending : Except Fault Word}
      (left : text ≠ []) (turned : turn total text = .ok (total', rest))
      (later : Loop total' rest ending) : Loop total text ending

/-- Whether the first byte of a text is a minus, and the text after its sign. -/
def cutSign (text : List Char) : Except Fault (Bool × List Char) :=
  match text.flatMap utf8EncodeChar with
  | [] => .error (.trap .outOfBounds)
  | byte :: _ =>
    if byte = 0x2d then (cut 1 text).map fun parts => (true, parts.2)
    else if byte = 0x2b then (cut 1 text).map fun parts => (false, parts.2)
    else .ok (false, text)

/-- A total as a signed word of 64 bits, with its sign. -/
def signed (negative : Bool) (total : Word) : Except Fault Duration :=
  if total.toNat ≤ maxNanos then
    let nanos : BitVec 64 := total.setWidth 64
    if negative then
      if nanos.negOverflow then .error (.trap .overflow) else .ok ⟨(-nanos).toInt⟩
    else .ok ⟨nanos.toInt⟩
  else .error (.refused .outOfRange)

/-- What the reader makes of a text. -/
inductive Reads (text : String) : (result : Except Fault Duration) → Prop
  | empty (nothing : Text.trim text.toList = []) : Reads text (.error (.refused .empty))
  | stop {fault : Fault} (some : Text.trim text.toList ≠ [])
      (stopped : cutSign (Text.trim text.toList) = .error fault) : Reads text (.error fault)
  | zero {negative : Bool} (cut : cutSign (Text.trim text.toList) = .ok (negative, ['0'])) :
      Reads text (.ok ⟨0⟩)
  | bare {negative : Bool} (cut : cutSign (Text.trim text.toList) = .ok (negative, [])) :
      Reads text (.error (.refused (.expectedNumber "")))
  | sum {negative : Bool} {size : List Char} {ending : Except Fault Word}
      (cut : cutSign (Text.trim text.toList) = .ok (negative, size)) (nonzero : size ≠ ['0'])
      (some : size ≠ []) (looped : Loop 0 size ending) : Reads text (ending.bind (signed negative))

/-! ## Words as numbers -/

section Numbers

variable {m n : Nat} {overflow : Fault}

theorem toNat_word (fits : n < sumBound) : (word n).toNat = n := by
  rw [word, BitVec.toNat_ofNat]
  exact Nat.mod_eq_of_lt fits

theorem word_toNat (total : Word) : word total.toNat = total := BitVec.ofNat_toNat 128 total

/-- The flag of an operation that does not fit a word, as a bound. -/
theorem ite_overflow (n : Nat) :
    (if decide (n ≥ 2 ^ 128) = true then .error overflow else .ok (word n) : Except Fault Word) =
      if n < sumBound then .ok (word n) else .error overflow := by
  have wraps : n ≥ 2 ^ 128 ↔ ¬n < sumBound := Nat.not_lt.symm
  by_cases fits : n < sumBound
  · rw [if_pos fits, if_neg]
    rw [decide_eq_true_eq, wraps, not_not]
    exact fits
  · rw [if_neg fits, if_pos]
    rw [decide_eq_true_eq, wraps]
    exact fits

theorem product_word (left : m < sumBound) (right : n < sumBound) :
    product overflow (word m) (word n) =
      if m * n < sumBound then .ok (word (m * n)) else .error overflow := by
  rw [product, BitVec.umulOverflow, toNat_word left, toNat_word right, ← ite_overflow, word, word,
    ← BitVec.ofNat_mul]
  rfl

example : product (.trap .overflow) (word (10 ^ 20)) (word (10 ^ 19)) = .error (.trap .overflow) := by
  decide

theorem sum_word (left : m < sumBound) (right : n < sumBound) :
    sum overflow (word m) (word n) =
      if m + n < sumBound then .ok (word (m + n)) else .error overflow := by
  rw [sum, BitVec.uaddOverflow, toNat_word left, toNat_word right, ← ite_overflow, word, word,
    ← BitVec.ofNat_add]
  rfl

theorem quotient_word (left : m < sumBound) (right : n < sumBound) (positive : 0 < n) :
    quotient (word m) (word n) = .ok (word (m / n)) := by
  have nonzero : word n ≠ 0 := by
    intro zero
    have none := toNat_word right
    rw [zero] at none
    exact absurd none positive.ne
  rw [quotient, if_neg nonzero]
  congr 1
  apply BitVec.eq_of_toNat_eq
  rw [BitVec.toNat_udiv, toNat_word left, toNat_word right,
    toNat_word (Nat.lt_of_le_of_lt (Nat.div_le_self m n) left)]

/-- A power of ten that fits a word is found without a multiplication going wrong. -/
theorem powerOfTen_eq {exponent : Nat} (fits : 10 ^ exponent < sumBound) :
    powerOfTen exponent = .ok (word (10 ^ exponent)) := by
  induction exponent with
  | zero => rfl
  | succ exponent ih =>
    rw [pow_succ, Nat.mul_comm] at fits ⊢
    have less : 10 ^ exponent < sumBound := by omega
    rw [powerOfTen, ih less]
    change product _ (word 10) _ = _
    rw [product_word (by decide) less, if_pos fits]

end Numbers

/-! ## What components are worth -/

section Worth

variable {digits : List Char} {c : Component}

/-- Digits are read as their value, where it fits a word. -/
theorem readWord_digits (some : digits ≠ []) (all : ∀ d ∈ digits, d.isDigit = true) :
    readWord digits =
      if Text.digitsValue digits < sumBound then .ok (word (Text.digitsValue digits))
      else .error (.refused .outOfRange) := by
  have unsigned : digits.head? ≠ Option.some '+' := by
    intro plus
    have digit := all '+' (List.mem_of_head? plus)
    cases digit
  have every : digits.all Char.isDigit = true := List.all_eq_true.mpr all
  unfold readWord
  rw [if_neg unsigned]
  simp only [some, every, ne_eq, not_false_eq_true, true_and]

/-- A unit has at least one nanosecond, and at most those of an hour. -/
theorem nanos_bounds (unit : TimeUnit) : 0 < unit.nanos ∧ unit.nanos ≤ 3600000000000 := by
  cases unit <;> decide

/-- The value of at most 18 digits fits a word by far: it can be multiplied with any unit. -/
theorem digitsValue_mul_nanos_lt (all : ∀ d ∈ digits, d.isDigit = true)
    (short : digits.length ≤ 18) (unit : TimeUnit) :
    Text.digitsValue digits * unit.nanos < sumBound := by
  have power : 10 ^ digits.length ≤ 10 ^ 18 := Nat.pow_le_pow_right (by decide) short
  calc Text.digitsValue digits * unit.nanos
      ≤ 10 ^ 18 * 3600000000000 :=
        Nat.mul_le_mul ((Text.digitsValue_lt all).le.trans power) (nanos_bounds unit).2
    _ < sumBound := by decide

theorem share_eq (some : digits ≠ []) (all : ∀ d ∈ digits, d.isDigit = true)
    (short : digits.length ≤ 18) (unit : TimeUnit) :
    share digits (word unit.nanos) =
      .ok (word (Text.digitsValue digits * unit.nanos / 10 ^ digits.length)) := by
  have bounds := nanos_bounds unit
  have unitFits : unit.nanos < sumBound := Nat.lt_of_le_of_lt bounds.2 (by decide)
  have productFits := digitsValue_mul_nanos_lt all short unit
  have numberFits : Text.digitsValue digits < sumBound :=
    Nat.lt_of_le_of_lt (Nat.le_mul_of_pos_right _ bounds.1) productFits
  have powerFits : 10 ^ digits.length < sumBound :=
    Nat.lt_of_le_of_lt (Nat.pow_le_pow_right (by decide) short) (by decide)
  have length : exponent digits = digits.length := by
    rw [exponent, Text.utf8Len_digits all, if_pos (by omega)]
  simp only [share, readWord_digits some all, if_pos numberFits, length, powerOfTen_eq powerFits,
    product_word numberFits unitFits, if_pos productFits, bind, Except.bind]
  exact quotient_word productFits powerFits (by positivity)

/-- The fraction digits that count are cut off between two characters. -/
theorem cut_fraction (fraction : ∀ d ∈ c.fraction, d.isDigit = true) :
    cut (fractionEnd c) c.fraction = .ok (c.fractionDigits, c.fraction.drop 18) := by
  rw [cut, fractionEnd, Text.cutAtByte?_digits fraction]
  rfl

theorem addShare_eq {value : Nat} (fits : value < sumBound)
    (fraction : ∀ d ∈ c.fraction, d.isDigit = true) :
    addShare (word value) c =
      if value + c.fractionProduct / Nat.pow 10 c.fractionDigits.length < sumBound then
        .ok (word (value + c.fractionProduct / Nat.pow 10 c.fractionDigits.length))
      else .error (.refused .outOfRange) := by
  have all : ∀ d ∈ c.fractionDigits, d.isDigit = true :=
    fun d mem => fraction d (List.mem_of_mem_take mem)
  have short : c.fractionDigits.length ≤ 18 := List.length_take_le 18 c.fraction
  have product := digitsValue_mul_nanos_lt all short c.unit
  simp only [addShare, cut_fraction fraction, bind, Except.bind]
  by_cases none : c.fractionDigits = []
  · have nothing : c.fractionProduct / Nat.pow 10 c.fractionDigits.length = 0 := by
      rw [Component.fractionProduct, none]
      simp [Text.digitsValue]
    rw [nothing, none, Nat.add_zero, if_pos fits]
    rfl
  · have shared : c.fractionProduct / Nat.pow 10 c.fractionDigits.length < sumBound :=
      Nat.lt_of_le_of_lt (Nat.div_le_self _ _) product
    rw [if_neg (by simpa using none), share_eq none all short]
    exact sum_word fits shared

theorem wholeWord_eq (whole : ∀ d ∈ c.whole, d.isDigit = true) :
    wholeWord c =
      if Text.digitsValue c.whole < sumBound then .ok (word (Text.digitsValue c.whole))
      else .error (.refused .outOfRange) := by
  unfold wholeWord
  cases own : c.whole with
  | nil => rfl
  | cons d ds => exact readWord_digits (List.cons_ne_nil d ds) (own ▸ whole)

/-- In words, a component is worth what it is in numbers, where that fits. -/
theorem worth_eq (whole : ∀ d ∈ c.whole, d.isDigit = true)
    (fraction : ∀ d ∈ c.fraction, d.isDigit = true) :
    worth c =
      if c.nanos < sumBound then .ok (word c.nanos) else .error (.refused .outOfRange) := by
  have bounds := nanos_bounds c.unit
  have unitFits : c.unit.nanos < sumBound := Nat.lt_of_le_of_lt bounds.2 (by decide)
  -- A part that does not fit is no more than the component.
  have least : Text.digitsValue c.whole ≤ Text.digitsValue c.whole * c.unit.nanos :=
    Nat.le_mul_of_pos_right _ bounds.1
  have most : Text.digitsValue c.whole * c.unit.nanos ≤ c.nanos := Nat.le_add_right _ _
  unfold worth
  rw [wholeWord_eq whole]
  by_cases wholeFits : Text.digitsValue c.whole < sumBound
  · simp only [if_pos wholeFits, bind, Except.bind, product_word wholeFits unitFits]
    by_cases productFits : Text.digitsValue c.whole * c.unit.nanos < sumBound
    · simp only [if_pos productFits]
      exact addShare_eq productFits fraction
    · have long : ¬c.nanos < sumBound := by omega
      simp only [if_neg productFits, if_neg long]
  · have long : ¬c.nanos < sumBound := by omega
    simp only [if_neg wholeFits, if_neg long, bind, Except.bind]

end Worth

/-! ## Turns of the loop -/

section Turns

variable {text rest : List Char} {c : Component} {e : DurationError}

/-- The number at the start of a text is cut off between two characters. -/
theorem cut_number (text : List Char) :
    cut (numberEnd text) text =
      .ok (text.takeWhile Component.isNumberChar, text.dropWhile Component.isNumberChar) := by
  rw [cut, numberEnd, Text.cutAtByte?_findByte?]
  simp only [Bool.not_not]

/-- So is the name of a unit. -/
theorem cut_unit (text : List Char) :
    cut (unitEnd text) text =
      .ok (text.takeWhile fun c => !Component.isNumberChar c,
        text.dropWhile fun c => !Component.isNumberChar c) := by
  rw [cut, unitEnd, Text.cutAtByte?_findByte?]

/-- In bytes, the component at the start of a text is the one that is read, or refused alike. -/
theorem component_eq (text : List Char) :
    component text = (Component.read text).mapError .refused := by
  unfold component Component.read
  simp only [cut_number, cut_unit, List.takeWhile_append_dropWhile, bind, Except.bind]
  split
  · rfl
  · split
    · rfl
    · cases TimeUnit.ofName? _ with
      | none => rfl
      | some unit => rfl

theorem read_of_component {parts : Component × List Char} (found : component text = .ok parts) :
    Component.read text = .ok parts := by
  rw [component_eq] at found
  cases read : Component.read text with
  | error e =>
    rw [read] at found
    cases found
  | ok own =>
    rw [read] at found
    cases found
    rfl

theorem isDigit_fraction_of_read (found : Component.read text = .ok (c, rest)) :
    ∀ d ∈ c.fraction, d.isDigit = true := by
  obtain ⟨own, -, written, -⟩ := Component.writtenAs_of_read found
  exact written.isDigit_fraction

theorem turn_of_error {total : Word} (failed : Component.read text = .error e) :
    turn total text = .error (.refused e) := by
  rw [turn, component_eq, failed]
  rfl

theorem turn_of_read {total : Nat} (fits : total < sumBound)
    (found : Component.read text = .ok (c, rest)) :
    turn (word total) text =
      if total + c.nanos < sumBound then .ok (word (total + c.nanos), rest)
      else .error (.refused .outOfRange) := by
  obtain ⟨own, -, written, -⟩ := Component.writtenAs_of_read found
  rw [turn, component_eq, found]
  simp only [Except.mapError, worth_eq written.isDigit_whole written.isDigit_fraction, bind,
    Except.bind]
  by_cases own : c.nanos < sumBound
  · simp only [if_pos own, sum_word fits own]
    by_cases below : total + c.nanos < sumBound
    · simp only [if_pos below]
    · simp only [if_neg below]
  · have long : ¬total + c.nanos < sumBound := by omega
    simp only [if_neg own, if_neg long]

/-- A turn refuses the text, or goes on after a component. -/
theorem turn_cases (total : Word) (text : List Char) :
    (∃ e, turn total text = .error (.refused e)) ∨
      ∃ c rest, Component.read text = .ok (c, rest) ∧
        turn total text = .ok (word (total.toNat + c.nanos), rest) := by
  cases found : Component.read text with
  | error e => exact .inl ⟨e, turn_of_error found⟩
  | ok parts =>
    obtain ⟨c, rest⟩ := parts
    have turned := turn_of_read total.isLt found
    rw [word_toNat] at turned
    by_cases below : total.toNat + c.nanos < sumBound
    · rw [if_pos below] at turned
      exact .inr ⟨c, rest, rfl, turned⟩
    · rw [if_neg below] at turned
      exact .inl ⟨.outOfRange, turned⟩

end Turns

/-! ## The loop -/

section Loops

variable {total : Word} {text : List Char} {ending ending' : Except Fault Word}

/-- The loop ends in one way only. -/
theorem Loop.unique (loop : Loop total text ending) (loop' : Loop total text ending') :
    ending = ending' := by
  induction loop with
  | done =>
    cases loop' with
    | done => rfl
    | stop left _ => cases left rfl
    | next left _ _ => cases left rfl
  | stop left stopped =>
    cases loop' with
    | done => cases left rfl
    | stop _ stopped' =>
      rw [stopped] at stopped'
      cases stopped'
      rfl
    | next _ turned _ =>
      rw [stopped] at turned
      cases turned
  | next left turned later ih =>
    cases loop' with
    | done => cases left rfl
    | stop _ stopped =>
      rw [turned] at stopped
      cases stopped
    | next _ turned' later' =>
      rw [turned] at turned'
      cases turned'
      exact ih later'

/-- The loop ends with the sum of the components in numbers, or refuses the text alike. -/
theorem loop_sumComponents {total : Nat} (fits : total < sumBound) (text : List Char) :
    Loop (word total) text (((sumComponents total text).map word).mapError .refused) := by
  induction total, text using sumComponents.induct with
  | case1 total =>
    rw [sumComponents]
    exact .done
  | case2 total first text e failed =>
    have sum : sumComponents total (first :: text) = .error e := by
      rw [sumComponents]
      split
      next same =>
        rw [failed] at same
        cases same
        rfl
      next found =>
        rw [failed] at found
        cases found
    rw [sum]
    exact .stop (List.cons_ne_nil _ _) (turn_of_error failed)
  | case3 total first text c rest found below ih =>
    have turned := turn_of_read fits found
    rw [if_pos below] at turned
    rw [sumComponents_of_read found, if_pos below]
    exact .next (List.cons_ne_nil _ _) turned (ih below)
  | case4 total first text c rest found above =>
    have turned := turn_of_read fits found
    rw [if_neg above] at turned
    rw [sumComponents_of_read found, if_neg above]
    exact .stop (List.cons_ne_nil _ _) turned

theorem loop_iff (text : List Char) :
    Loop 0 text ending ↔ ending = ((sumComponents 0 text).map word).mapError .refused := by
  have loop : Loop 0 text _ := loop_sumComponents (Nat.pow_pos Nat.zero_lt_two) text
  constructor
  · intro other
    exact other.unique loop
  · rintro rfl
    exact loop

end Loops

/-! ## Signs -/

section Signs

variable {negative : Bool} {total : Nat}

theorem cut_one_byte {c : Char} {byte : UInt8} {cs : List Char}
    (single : utf8EncodeChar c = [byte]) : cut 1 (c :: cs) = .ok ([c], cs) := by
  have size : utf8Len [c] = 1 := by
    rw [String.utf8Len_cons, String.utf8Len_nil, ← String.length_utf8EncodeChar, single]
    rfl
  have parts := Text.cutAtByte?_append [c] cs
  rw [size, List.singleton_append] at parts
  rw [cut, parts]

/-- The first byte of a text tells its sign, and the text is cut after it. -/
theorem cutSign_eq (c : Char) (cs : List Char) :
    cutSign (c :: cs) = .ok (Duration.cutSign (c :: cs)) := by
  have minus : utf8EncodeChar '-' = [0x2d] := by decide
  have plus : utf8EncodeChar '+' = [0x2b] := by decide
  obtain ⟨byte, bytes, encoded⟩ :=
    List.exists_cons_of_ne_nil (String.utf8EncodeChar_ne_nil (c := c))
  have first : (c :: cs).flatMap utf8EncodeChar = byte :: (bytes ++ cs.flatMap utf8EncodeChar) := by
    rw [List.flatMap_cons, encoded, List.cons_append]
  rw [cutSign, first]
  by_cases isMinus : byte = 0x2d
  · cases Text.eq_of_first_byte (isMinus ▸ encoded) minus
    simp only [if_pos isMinus, cut_one_byte minus]
    rfl
  · by_cases isPlus : byte = 0x2b
    · cases Text.eq_of_first_byte (isPlus ▸ encoded) plus
      simp only [if_neg isMinus, if_pos isPlus, cut_one_byte plus]
      rfl
    · simp only [if_neg isMinus, if_neg isPlus]
      have notMinus : c ≠ '-' := by
        rintro rfl
        rw [minus] at encoded
        cases encoded
        exact isMinus rfl
      have notPlus : c ≠ '+' := by
        rintro rfl
        rw [plus] at encoded
        cases encoded
        exact isPlus rfl
      unfold Duration.cutSign
      split
      next same =>
        cases same
        exact absurd rfl notMinus
      next same =>
        cases same
        exact absurd rfl notPlus
      next => rfl

theorem signed_eq (fits : total < sumBound) :
    signed negative (word total) =
      if total ≤ maxNanos then .ok ⟨if negative then -(total : Int) else total⟩
      else .error (.refused .outOfRange) := by
  rw [signed, toNat_word fits]
  by_cases short : total ≤ maxNanos
  · have bound : total < 2 ^ 63 := Nat.lt_of_le_of_lt short (by decide)
    have size : ((word total).setWidth 64).toNat = total := by
      rw [BitVec.toNat_setWidth, toNat_word fits]
      exact Nat.mod_eq_of_lt (Nat.lt_trans bound (by decide))
    have value : ((word total).setWidth 64).toInt = total := by
      rw [BitVec.toInt_eq_toNat_of_lt, size]
      rw [size]
      omega
    -- Only the least of the signed words has no opposite, and it is negative.
    have opposite : ¬((word total).setWidth 64).negOverflow = true := by
      rw [BitVec.negOverflow, value, beq_iff_eq]
      omega
    simp only [if_pos short, if_neg opposite]
    cases negative with
    | false => rw [if_neg Bool.false_ne_true, value, if_neg Bool.false_ne_true]
    | true => rw [if_pos rfl, BitVec.toInt_neg_of_not_negOverflow opposite, value, if_pos rfl]
  · simp only [if_neg short]

end Signs

/-! ## Results -/

section Results

variable {text : String} {result : Except Fault Duration}

theorem lt_of_sumComponents {total size : Nat} {text : List Char} (fits : total < sumBound)
    (summed : sumComponents total text = .ok size) : size < sumBound := by
  obtain ⟨components, texts, written, rfl, rfl⟩ := writtenAs_of_sumComponents summed
  rw [sumComponents_of_writtenAs written fits] at summed
  split at summed
  next below => exact below
  next => cases summed

/-- What the reader in words makes of an ending of the loop is what the size is read as. -/
theorem bind_signed {size : List Char} (nonzero : size ≠ ['0']) (some : size ≠ [])
    (negative : Bool) :
    (((sumComponents 0 size).map word).mapError .refused).bind (signed negative) =
      ((readSize size).map fun total =>
        Duration.mk (if negative then -(total : Int) else total)).mapError .refused := by
  rw [readSize, if_neg nonzero, if_neg some]
  cases summed : sumComponents 0 size with
  | error e => rfl
  | ok total =>
    have fits := lt_of_sumComponents (by decide) summed
    change signed negative (word total) = _
    rw [signed_eq fits]
    by_cases short : total ≤ maxNanos
    · simp only [if_pos short]
      rfl
    · simp only [if_neg short]
      rfl

theorem reads_iff_of_blank (blank : Text.trim text.toList = []) :
    Reads text result ↔ result = .error (.refused .empty) := by
  constructor
  · intro reads
    cases reads with
    | empty _ => rfl
    | stop some _ => exact absurd blank some
    | zero cut | bare cut | sum cut _ _ _ =>
      rw [blank] at cut
      cases cut
  · rintro rfl
    exact .empty blank

theorem reads_iff_of_sign {negative : Bool} {size : List Char}
    (sign : cutSign (Text.trim text.toList) = .ok (negative, size)) :
    Reads text result ↔
      result = ((readSize size).map fun total =>
        Duration.mk (if negative then -(total : Int) else total)).mapError .refused := by
  have zeroRead : ((readSize ['0']).map fun total =>
      Duration.mk (if negative then -(total : Int) else total)).mapError Fault.refused =
        .ok ⟨0⟩ := by
    cases negative with
    | false => rfl
    | true => rfl
  constructor
  · intro reads
    cases reads with
    | empty nothing =>
      rw [nothing] at sign
      cases sign
    | stop _ stopped =>
      rw [sign] at stopped
      cases stopped
    | zero cut =>
      rw [sign] at cut
      cases cut
      exact zeroRead.symm
    | bare cut =>
      rw [sign] at cut
      cases cut
      rfl
    | sum cut nonzero some looped =>
      rw [sign] at cut
      cases cut
      rw [(loop_iff _).mp looped, bind_signed nonzero some]
  · rintro rfl
    by_cases zero : size = ['0']
    · rw [zero, zeroRead]
      exact .zero (zero ▸ sign)
    · by_cases nothing : size = []
      · subst nothing
        exact .bare sign
      · rw [← bind_signed zero nothing]
        exact .sum sign zero nothing ((loop_iff size).mpr rfl)

/-- The reader in words comes to one result for each text: what is read in numbers, or refused. -/
theorem reads_iff : Reads text result ↔ result = (read text).mapError .refused := by
  unfold read
  cases trimmed : Text.trim text.toList with
  | nil => exact reads_iff_of_blank trimmed
  | cons c cs =>
    apply reads_iff_of_sign
    rw [trimmed]
    exact cutSign_eq c cs

end Results

/-! ## Turns in which nothing goes wrong -/

/-- Nothing goes wrong in a turn of the loop. -/
structure SafeTurn (total : Word) (text : List Char) : Prop where
  /-- No operation that is not checked traps, of numbers or of texts. -/
  untrapped : ∀ trap, turn total text ≠ .error (.trap trap)
  /-- The value of the fraction digits times the unit fits a word. -/
  product_lt : ∀ c rest, Component.read text = .ok (c, rest) → c.fractionProduct < 2 ^ 128
  /-- The power of ten that it is divided by is at most that of 18 digits, and not zero. -/
  power_le : ∀ c rest, Component.read text = .ok (c, rest) →
    10 ^ c.fractionDigits.length ≤ 10 ^ 18 ∧ 10 ^ c.fractionDigits.length ≠ 0
  /-- A text is cut between two characters only: after a number, after the name of a unit, and after
  the fraction digits that count. -/
  number_boundary : Text.IsBoundary (numberEnd text) text
  unit_boundary : ∀ number named, cut (numberEnd text) text = .ok (number, named) →
    Text.IsBoundary (unitEnd named) named
  fraction_boundary : ∀ c rest, component text = .ok (c, rest) →
    Text.IsBoundary (fractionEnd c) c.fraction
  /-- A turn after which the loop goes on takes at least one character off the text. -/
  shorter : ∀ total' rest, turn total text = .ok (total', rest) → rest.length < text.length

theorem isBoundary_of_cut {offset : Nat} {text : List Char} {parts : List Char × List Char}
    (parted : cut offset text = .ok parts) : Text.IsBoundary offset text := by
  rw [← Text.isSome_cutAtByte?_iff]
  unfold cut at parted
  split at parted
  next found => rw [found, Option.isSome_some]
  next => cases parted

theorem safeTurn (total : Word) (text : List Char) : SafeTurn total text := by
  have short (c : Component) : c.fractionDigits.length ≤ 18 := List.length_take_le 18 c.fraction
  constructor
  case untrapped =>
    intro trap trapped
    rcases turn_cases total text with ⟨e, refused⟩ | ⟨c, rest, -, turned⟩
    · rw [refused] at trapped
      cases trapped
    · rw [turned] at trapped
      cases trapped
  case product_lt =>
    intro c rest found
    exact digitsValue_mul_nanos_lt
      (fun d mem => isDigit_fraction_of_read found d (List.mem_of_mem_take mem)) (short c) c.unit
  case power_le =>
    intro c rest _
    exact ⟨Nat.pow_le_pow_right (by decide) (short c), by positivity⟩
  case number_boundary => exact isBoundary_of_cut (cut_number text)
  case unit_boundary => exact fun _ named _ => isBoundary_of_cut (cut_unit named)
  case fraction_boundary =>
    intro c rest found
    exact isBoundary_of_cut (cut_fraction (isDigit_fraction_of_read (read_of_component found)))
  case shorter =>
    intro total' rest goesOn
    rcases turn_cases total text with ⟨e, refused⟩ | ⟨c, rest', found, turned⟩
    · rw [refused] at goesOn
      cases goesOn
    · rw [turned] at goesOn
      cases goesOn
      exact Component.read_shorter found

end Words

/-- For each text the reader in words comes to an end, in one way: it reads what is read in numbers, or
refuses the text for the same reason, and is not trapped.  Nothing goes wrong in any turn of its loop,
with any total and any text, nor where the total gets its sign.  Every duration that is read has an
opposite among the signed words of 64 bits. -/
theorem read_untrapped (text : String) :
    (∀ result, Words.Reads text result ↔ result = (read text).mapError Words.Fault.refused) ∧
      (∀ total rest, Words.SafeTurn total rest) ∧
      (∀ negative total trap, Words.signed negative total ≠ .error (.trap trap)) ∧
      ∀ d, read text = .ok d → -(2 ^ 63 - 1) ≤ d.nanos ∧ d.nanos ≤ 2 ^ 63 - 1 := by
  refine ⟨fun result => Words.reads_iff, Words.safeTurn, ?_, ?_⟩
  · intro negative total trap trapped
    rw [← Words.word_toNat total, Words.signed_eq total.isLt] at trapped
    split at trapped
    · cases trapped
    · cases trapped
  · intro d found
    have bound := natAbs_le_maxNanos found
    have most : maxNanos = 2 ^ 63 - 1 := rfl
    omega

/-! ## Rehearsed words -/

open Rehearsed in
theorem read_untrapped_rehearsed :
    Words.Reads "\t-.5h07\u00b5s\u3000" (.ok ⟨-1800000007000⟩) ∧
      Words.Reads "009223372036854775808ns" (.error (.refused .outOfRange)) ∧
      Component.read "0.0000000000002777778h".toList = .ok (longFraction, []) ∧
      longFraction.fractionProduct < 2 ^ 128 ∧
      -(2 ^ 63 - 1) ≤ (-1800000007000 : Int) ∧ (-1800000007000 : Int) ≤ 2 ^ 63 - 1 := by
  obtain ⟨accepts, -, -, inRange⟩ := read_untrapped "\t-.5h07\u00b5s\u3000"
  obtain ⟨refuses, safe, -, -⟩ := read_untrapped "009223372036854775808ns"
  have accepted : read "\t-.5h07\u00b5s\u3000" = .ok ⟨-1800000007000⟩ := by decide +kernel
  have refused : read "009223372036854775808ns" = .error .outOfRange := by decide +kernel
  have found : Component.read "0.0000000000002777778h".toList = .ok (longFraction, []) := by
    decide +kernel
  refine ⟨(accepts _).mpr ?_, (refuses _).mpr ?_, found, ?_, inRange _ accepted⟩
  · rw [accepted]
    rfl
  · rw [refused]
    rfl
  · exact (safe 0 _).product_lt _ _ found

end Retention.Duration
