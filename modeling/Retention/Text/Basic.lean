/-!
# Text as a list of characters

Readers in this library work on the list of a text's characters.  This module holds what they
share: the blank characters, trimming, the cut at the first separator, and runs of decimal
digits.  `cutAt?_eq_some_iff` says which cut is found; `digitsValue_fixedDigits` says that
writing a number with a fixed count of digits and reading it back keeps it.
-/

namespace Retention.Text

/-! ## Blank characters -/

/-- The characters with the Unicode property `White_Space`. -/
def isBlank (c : Char) : Bool :=
  let n := c.toNat
  (9 ≤ n && n ≤ 13) || n == 0x20 || n == 0x85 || n == 0xA0 || n == 0x1680 ||
    (0x2000 ≤ n && n ≤ 0x200A) || n == 0x2028 || n == 0x2029 || n == 0x202F || n == 0x205F ||
    n == 0x3000

/-- The text from its first character that is not blank. -/
def trimStart (cs : List Char) : List Char :=
  cs.dropWhile isBlank

/-- The text up to its last character that is not blank. -/
def trimEnd (cs : List Char) : List Char :=
  (cs.reverse.dropWhile isBlank).reverse

/-- The text without the blanks at either end. -/
def trim (cs : List Char) : List Char :=
  trimEnd (trimStart cs)

/-! ## Cutting -/

/-- The parts of a text before and after the first `sep`, where it has one. -/
def cutAt? (sep : Char) : List Char → Option (List Char × List Char)
  | [] => none
  | c :: cs =>
    if c = sep then some ([], cs)
    else (cutAt? sep cs).map fun parts => (c :: parts.1, parts.2)

theorem cutAt?_eq_some_iff {sep : Char} {cs before after : List Char} :
    cutAt? sep cs = some (before, after) ↔ cs = before ++ sep :: after ∧ sep ∉ before := by
  induction cs generalizing before with
  | nil => simp [cutAt?]
  | cons c cs ih =>
    unfold cutAt?
    split
    next h =>
      subst h
      cases before with
      | nil => simp [eq_comm]
      | cons b before => simp_all
    next h =>
      cases before with
      | nil => simp_all
      | cons b before =>
        simp only [Option.map_eq_some_iff, Prod.exists, Prod.mk.injEq, List.cons.injEq]
        constructor
        · rintro ⟨x, y, hxy, ⟨rfl, rfl⟩, rfl⟩
          obtain ⟨rfl, hx⟩ := ih.mp hxy
          exact ⟨by simp, by simp [hx, Ne.symm h]⟩
        · rintro ⟨hcs, hsep⟩
          simp only [List.cons_append, List.cons.injEq] at hcs
          simp only [List.mem_cons, not_or] at hsep
          exact ⟨before, after, ih.mpr ⟨hcs.2, hsep.2⟩, ⟨hcs.1, rfl⟩, rfl⟩

theorem cutAt?_eq_none_iff {sep : Char} {cs : List Char} : cutAt? sep cs = none ↔ sep ∉ cs := by
  induction cs with
  | nil => simp [cutAt?]
  | cons c cs ih =>
    unfold cutAt?
    split
    next h => simp [h]
    next h => simp [ih, Ne.symm h]

/-- The pieces of a text between the occurrences of `sep`: one more than there are of them. -/
def split (sep : Char) : List Char → List (List Char)
  | [] => [[]]
  | c :: cs =>
    if c = sep then [] :: split sep cs
    else match split sep cs with
      | [] => [[c]]
      | piece :: pieces => (c :: piece) :: pieces

/-- A text without `sep` is one piece. -/
theorem split_of_notMem {sep : Char} {cs : List Char} (uncut : sep ∉ cs) : split sep cs = [cs] := by
  induction cs with
  | nil => rfl
  | cons c cs ih =>
    rw [List.mem_cons, not_or] at uncut
    rw [split, if_neg (Ne.symm uncut.1), ih uncut.2]

/-- What comes before the first `sep` is the first piece. -/
theorem split_append {sep : Char} {cs : List Char} (uncut : sep ∉ cs) (rest : List Char) :
    split sep (cs ++ sep :: rest) = cs :: split sep rest := by
  induction cs with
  | nil => simp [split]
  | cons c cs ih =>
    rw [List.mem_cons, not_or] at uncut
    rw [List.cons_append, split, if_neg (Ne.symm uncut.1), ih uncut.2]

/-- Parts without `sep` that each come after one are the pieces, after a first one. -/
theorem split_flatMap {sep : Char} {first : List Char} {parts : List (List Char)}
    (uncut : sep ∉ first) (whole : ∀ part ∈ parts, sep ∉ part) :
    split sep (first ++ parts.flatMap (sep :: ·)) = first :: parts := by
  induction parts generalizing first with
  | nil => rw [List.flatMap_nil, List.append_nil, split_of_notMem uncut]
  | cons part rest ih =>
    rw [List.forall_mem_cons] at whole
    rw [List.flatMap_cons, List.cons_append, split_append uncut, ih whole.1 whole.2]

/-- Two texts put one after the other with `sep` between them, or only the second where the first
is empty. -/
def qualified (sep : Char) (qualifier name : String) : String :=
  if qualifier.isEmpty then name else qualifier ++ sep.toString ++ name

/-! ## Decimal digits -/

def digitValue (c : Char) : Nat :=
  c.toNat - '0'.toNat

/-- The number that a run of ASCII digits writes in decimal; nothing writes zero. -/
def digitsValue (cs : List Char) : Nat :=
  cs.foldl (fun value c => value * 10 + digitValue c) 0

/-- The character of the last decimal digit of a number. -/
def lastDigit (n : Nat) : Char :=
  Nat.digitChar (n % 10)

/-- The last `count` decimal digits of a number, with leading zeros. -/
def fixedDigits : (count n : Nat) → List Char
  | 0, _ => []
  | count + 1, n => fixedDigits count (n / 10) ++ [lastDigit n]

theorem digitValue_lastDigit (n : Nat) : digitValue (lastDigit n) = n % 10 := by
  have h : n % 10 < 10 := Nat.mod_lt _ (by decide)
  unfold digitValue lastDigit
  generalize n % 10 = d at h ⊢
  match d, h with
  | 0, _ | 1, _ | 2, _ | 3, _ | 4, _ | 5, _ | 6, _ | 7, _ | 8, _ | 9, _ => rfl

theorem digitsValue_append_singleton (cs : List Char) (c : Char) :
    digitsValue (cs ++ [c]) = digitsValue cs * 10 + digitValue c := by
  simp [digitsValue]

theorem digitsValue_fixedDigits (count n : Nat) :
    digitsValue (fixedDigits count n) = n % Nat.pow 10 count := by
  induction count generalizing n with
  | zero => simp [fixedDigits, digitsValue, Nat.mod_one]
  | succ count ih =>
    have power : Nat.pow 10 (count + 1) = 10 * Nat.pow 10 count := Nat.mul_comm _ _
    rw [fixedDigits, digitsValue_append_singleton, ih, digitValue_lastDigit, power, Nat.mod_mul]
    omega

theorem length_fixedDigits (count n : Nat) : (fixedDigits count n).length = count := by
  induction count generalizing n with
  | zero => rfl
  | succ count ih => simp [fixedDigits, ih]

end Retention.Text
