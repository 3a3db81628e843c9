import Retention.Text.Basic

/-!
# Runs of digits

A reader takes the longest run of digits at the start of a text.  Where a text that was written
stops, so that the text after it begins with no digit (`Ends`), the run is what was written
(`takeWhile_append_of_ends`), and its value is the number that was written (`digitsValue_toDigits`,
beside `digitsValue_fixedDigits` for a fixed count of digits).
-/

namespace Retention.Text

/-! ## Where a run ends -/

/-- The text does not go on with a character of a kind. -/
def Ends (kind : Char → Bool) (rest : List Char) : Prop :=
  ∀ c, rest.head? = some c → kind c = false

section Runs

variable {kind : Char → Bool} {run rest : List Char}

theorem ends_nil : Ends kind [] := nofun

theorem ends_cons {c : Char} (other : kind c = false) : Ends kind (c :: rest) := by
  rintro _ ⟨⟩
  exact other

theorem Ends.takeWhile_eq (ends : Ends kind rest) : rest.takeWhile kind = [] := by
  cases rest with
  | nil => rfl
  | cons c rest => rw [List.takeWhile_cons, ends c rfl]; rfl

theorem Ends.dropWhile_eq (ends : Ends kind rest) : rest.dropWhile kind = rest := by
  cases rest with
  | nil => rfl
  | cons c rest => rw [List.dropWhile_cons, ends c rfl]; rfl

/-- What comes after the end of a text does not go into its first run. -/
theorem takeWhile_append_of_ends (ends : Ends kind rest) :
    (run ++ rest).takeWhile kind = run.takeWhile kind := by
  induction run with
  | nil => exact ends.takeWhile_eq
  | cons c run ih =>
    rw [List.cons_append, List.takeWhile_cons, List.takeWhile_cons, ih]

theorem dropWhile_append_of_ends (ends : Ends kind rest) :
    (run ++ rest).dropWhile kind = run.dropWhile kind ++ rest := by
  induction run with
  | nil => exact ends.dropWhile_eq
  | cons c run ih =>
    rw [List.cons_append, List.dropWhile_cons, List.dropWhile_cons, ih]
    cases kind c <;> rfl

theorem takeWhile_of_all (all : ∀ c ∈ run, kind c = true) : run.takeWhile kind = run := by
  have whole : (run ++ []).takeWhile kind = run ++ [].takeWhile kind :=
    List.takeWhile_append_of_pos all
  simpa using whole

theorem dropWhile_of_all (all : ∀ c ∈ run, kind c = true) : run.dropWhile kind = [] := by
  have whole : (run ++ []).dropWhile kind = [].dropWhile kind := List.dropWhile_append_of_pos all
  simpa using whole

end Runs

/-! ## Digits -/

theorem isDigit_lastDigit (n : Nat) : (lastDigit n).isDigit = true := by
  rw [lastDigit, Nat.isDigit_digitChar, decide_eq_true_eq]
  exact Nat.mod_lt n (by decide)

theorem isDigit_of_mem_fixedDigits {count n : Nat} {c : Char} (mem : c ∈ fixedDigits count n) :
    c.isDigit = true := by
  induction count generalizing n with
  | zero => cases mem
  | succ count ih =>
    rw [fixedDigits, List.mem_append, List.mem_singleton] at mem
    rcases mem with earlier | rfl
    · exact ih earlier
    · exact isDigit_lastDigit n

theorem isDigit_of_mem_toDigits {n : Nat} {c : Char} (mem : c ∈ Nat.toDigits 10 n) :
    c.isDigit = true :=
  Nat.isDigit_of_mem_toDigits (by decide) (by decide) mem

/-- The digits of a number have its value. -/
theorem digitsValue_toDigits (n : Nat) : digitsValue (Nat.toDigits 10 n) = n := by
  have same (cs : List Char) : digitsValue cs = Nat.ofDigitChars 10 cs 0 := by
    rw [digitsValue, Nat.ofDigitChars_eq_foldl]
    congr 1
    funext value c
    rw [Nat.mul_comm, digitValue]
  rw [same, Nat.ofDigitChars_toDigits (by decide) (by decide)]

theorem digitsValue_fixedDigits_of_lt {count n : Nat} (fits : n < Nat.pow 10 count) :
    digitsValue (fixedDigits count n) = n := by
  rw [digitsValue_fixedDigits, Nat.mod_eq_of_lt fits]

/-- No digit is blank. -/
theorem isBlank_of_isDigit {c : Char} (digit : c.isDigit = true) : isBlank c = false := by
  have bounds : 48 ≤ c.toNat ∧ c.toNat ≤ 57 := by
    simpa [Char.isDigit, UInt32.le_iff_toNat_le] using digit
  simp only [isBlank, Bool.or_eq_false_iff, Bool.and_eq_false_iff, beq_eq_false_iff_ne,
    decide_eq_false_iff_not, ne_eq]
  omega

theorem trimStart_of_not_blank {c : Char} {rest : List Char} (shown : isBlank c = false) :
    trimStart (c :: rest) = c :: rest :=
  (ends_cons shown).dropWhile_eq

end Retention.Text
