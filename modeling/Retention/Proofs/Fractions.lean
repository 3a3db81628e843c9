import Mathlib
import Retention.Proofs.Spellings

/-!
# Fractions of a duration

A component writes a rational number of nanoseconds, `Component.exactNanos`, and is read as a whole
number of them.  The reader leaves out the digits of a fraction after the 18th.  What is left out is
worth less than a nanosecond, so a component loses one at most (`Component.roundsDown`), and it loses
none where the unit divides `10 ^ 18` nanoseconds.  Minutes and hours do not, and there the digits
after the 18th can complete a nanosecond: `Component.RoundsDown.exact_iff` says when.
-/

namespace Retention

/-! ## The value of digits -/

namespace Text

theorem digitsValue_append (before after : List Char) :
    digitsValue (before ++ after) = digitsValue before * 10 ^ after.length + digitsValue after := by
  induction after using List.reverseRecOn with
  | nil => simp [digitsValue]
  | append_singleton after c ih =>
    rw [← List.append_assoc, digitsValue_append_singleton, ih, digitsValue_append_singleton,
      List.length_append, List.length_singleton, pow_succ]
    ring

theorem digitsValue_lt {digits : List Char} (all : ∀ c ∈ digits, c.isDigit = true) :
    digitsValue digits < 10 ^ digits.length := by
  induction digits using List.reverseRecOn with
  | nil => decide
  | append_singleton digits c ih =>
    have before := ih fun c mem => all c (List.mem_append_left _ mem)
    have digit : c.toNat - 48 ≤ 9 := by
      have bounds : 48 ≤ c.toNat ∧ c.toNat ≤ 57 := by
        simpa [Char.isDigit, UInt32.le_iff_toNat_le] using
          all c (List.mem_append_right _ List.mem_cons_self)
      omega
    rw [digitsValue_append_singleton, List.length_append, List.length_singleton, pow_succ]
    have value : digitValue c = c.toNat - 48 := rfl
    omega

end Text

namespace Component

/-! ## Exact nanoseconds -/

/-- The decimal number that a component writes. -/
def number (c : Component) : ℚ :=
  Text.digitsValue (c.whole ++ c.fraction) / 10 ^ c.fraction.length

/-- The nanoseconds that a component writes, with their fraction. -/
def exactNanos (c : Component) : ℚ := c.number * c.unit.nanos

/-- The component without the digits that are not read. -/
def cut (c : Component) : Component := { c with fraction := c.fraction.take 18 }

/-- A component with all its digits is worth what it writes, rounded down. -/
theorem floor_exactNanos (c : Component) : ⌊c.exactNanos⌋ = (c.worth c.fraction.length : ℤ) := by
  have whole : c.exactNanos = ((Text.digitsValue (c.whole ++ c.fraction) * c.unit.nanos : ℕ) : ℚ) /
      ((10 ^ c.fraction.length : ℕ) : ℚ) := by
    rw [exactNanos, number]
    push_cast
    ring
  rw [whole, Rat.floor_natCast_div_natCast, ← Int.natCast_ediv, Nat.cast_inj, worth,
    Text.digitsValue_append, List.take_length, Nat.min_self, Nat.add_mul, Nat.mul_right_comm,
    Nat.add_comm, Nat.add_mul_div_right _ _ (by positivity), Nat.add_comm]

/-- A component is read as what its first 18 fraction digits write, rounded down. -/
theorem nanos_eq_floor_cut (c : Component) : (c.nanos : ℤ) = ⌊c.cut.exactNanos⌋ := by
  have length : c.cut.fraction.length = min 18 c.fraction.length := List.length_take
  rw [floor_exactNanos, nanos_eq_worth, worth, worth, List.take_length, Nat.min_self, length]
  rfl

/-! ## What is left out -/

/-- The part of a number that its fraction digits after the 18th write. -/
def leftOut (c : Component) : ℚ :=
  Text.digitsValue (c.fraction.drop 18) / 10 ^ c.fraction.length

theorem number_eq (c : Component) : c.number = c.cut.number + c.leftOut := by
  have digits : c.whole ++ c.fraction =
      (c.cut.whole ++ c.cut.fraction) ++ c.fraction.drop 18 := by
    rw [cut, List.append_assoc, List.take_append_drop]
  have length : c.fraction.length = c.cut.fraction.length + (c.fraction.drop 18).length := by
    rw [cut, ← List.length_append, List.take_append_drop]
  rw [number, number, leftOut, digits, Text.digitsValue_append, length, pow_add]
  push_cast
  field_simp

theorem leftOut_eq_zero {c : Component} (short : c.fraction.length ≤ 18) : c.leftOut = 0 := by
  rw [leftOut, List.drop_of_length_le short]
  simp [Text.digitsValue]

theorem leftOut_nonneg (c : Component) : 0 ≤ c.leftOut := by
  rw [leftOut]
  positivity

/-- The digits that are not read write less than one in the place of the 18th. -/
theorem leftOut_lt {c : Component} (digits : ∀ d ∈ c.fraction, d.isDigit = true) :
    c.leftOut < 1 / 10 ^ 18 := by
  rcases Nat.le_total c.fraction.length 18 with short | long
  · rw [leftOut_eq_zero short]
    positivity
  · have all : ∀ d ∈ c.fraction.drop 18, d.isDigit = true :=
      fun d mem => digits d (List.mem_of_mem_drop mem)
    have less := Text.digitsValue_lt all
    rw [List.length_drop] at less
    have split : c.fraction.length = c.fraction.length - 18 + 18 := by omega
    rw [leftOut, split, pow_add, div_lt_div_iff₀ (by positivity) (by positivity), one_mul]
    have power : (0 : ℚ) < 10 ^ 18 := by positivity
    have cast : (Text.digitsValue (c.fraction.drop 18) : ℚ) < 10 ^ (c.fraction.length - 18) := by
      exact_mod_cast less
    exact mul_lt_mul_of_pos_right cast power

/-- How the nanoseconds that a component is read as go with those that it writes. -/
structure RoundsDown (c : Component) : Prop where
  /-- It is read as no more than it writes, rounded down, and as one less at most. -/
  near : (c.nanos : ℤ) ≤ ⌊c.exactNanos⌋ ∧ ⌊c.exactNanos⌋ ≤ c.nanos + 1
  /-- It is read as less where the digits that are not read complete a nanosecond. -/
  exact_iff : (c.nanos : ℤ) = ⌊c.exactNanos⌋ ↔
    ¬∃ n : ℤ, c.cut.exactNanos < n ∧ (n : ℚ) ≤ c.exactNanos
  /-- This takes more than 18 digits, and a unit of minutes or hours. -/
  exact : c.fraction.length ≤ 18 ∨ c.unit ≠ .minute ∧ c.unit ≠ .hour →
    (c.nanos : ℤ) = ⌊c.exactNanos⌋

theorem exactNanos_eq (c : Component) :
    c.exactNanos = c.cut.exactNanos + c.leftOut * c.unit.nanos := by
  rw [exactNanos, exactNanos, number_eq, add_mul]
  rfl

/-- Two numbers are rounded down to the same whole number where there is none from the one to the
other. -/
theorem floor_eq_floor_iff {a b : ℚ} (le : a ≤ b) : ⌊a⌋ = ⌊b⌋ ↔ ¬∃ n : ℤ, a < n ∧ (n : ℚ) ≤ b := by
  constructor
  · rintro same ⟨n, above, below⟩
    have most : n ≤ ⌊a⌋ := same ▸ Int.le_floor.mpr below
    exact absurd (Int.le_floor.mp most) (not_le.mpr above)
  · intro none
    refine le_antisymm (Int.floor_mono le) (not_lt.mp fun less => none ?_)
    exact ⟨⌊b⌋, Int.floor_lt.mp less, Int.floor_le b⟩

/-- Where the 18th place is a whole part of the unit, no digits after it complete a nanosecond. -/
theorem cut_exact {c : Component} (digits : ∀ d ∈ c.fraction, d.isDigit = true)
    (long : 18 ≤ c.fraction.length) {parts : ℕ} (divides : c.unit.nanos * parts = 10 ^ 18) :
    ¬∃ n : ℤ, c.cut.exactNanos < n ∧ (n : ℚ) ≤ c.exactNanos := by
  rintro ⟨n, above, below⟩
  have whole : (c.unit.nanos : ℚ) * parts = 10 ^ 18 := by exact_mod_cast divides
  have positive : (0 : ℚ) < parts := by
    rcases Nat.eq_zero_or_pos parts with rfl | positive
    · norm_num at divides
    · exact_mod_cast positive
  have length : c.cut.fraction.length = 18 := by
    rw [cut, List.length_take, Nat.min_eq_left long]
  -- Times `parts`, what is read is whole, and what is left out is less than one.
  have read : c.cut.exactNanos * parts = Text.digitsValue (c.cut.whole ++ c.cut.fraction) := by
    rw [exactNanos, mul_assoc, number, length, show c.cut.unit = c.unit from rfl, whole]
    exact div_mul_cancel₀ _ (by positivity)
  have most : c.exactNanos * parts <
      Text.digitsValue (c.cut.whole ++ c.cut.fraction) + 1 := by
    have rest : c.leftOut * 10 ^ 18 < 1 := by
      rw [← lt_div_iff₀ (by positivity)]
      exact leftOut_lt digits
    rw [exactNanos_eq c, add_mul, read, mul_assoc, whole]
    exact (add_lt_add_iff_left _).mpr rest
  have low := read ▸ mul_lt_mul_of_pos_right above positive
  have high := (mul_le_mul_of_nonneg_right below positive.le).trans_lt most
  norm_cast at low high
  omega

theorem roundsDown {c : Component} (digits : ∀ d ∈ c.fraction, d.isDigit = true) :
    c.RoundsDown := by
  have unit : (0 : ℚ) < c.unit.nanos ∧ (c.unit.nanos : ℚ) < 10 ^ 18 := by
    cases c.unit <;> norm_num [TimeUnit.nanos]
  have least : c.cut.exactNanos ≤ c.exactNanos := by
    rw [exactNanos_eq c]
    exact le_add_of_nonneg_right (mul_nonneg c.leftOut_nonneg unit.1.le)
  have most : c.exactNanos < c.cut.exactNanos + 1 := by
    rw [exactNanos_eq c, add_lt_add_iff_left]
    calc c.leftOut * c.unit.nanos
        < 1 / 10 ^ 18 * c.unit.nanos := mul_lt_mul_of_pos_right (leftOut_lt digits) unit.1
      _ < 1 / 10 ^ 18 * 10 ^ 18 := mul_lt_mul_of_pos_left unit.2 (by positivity)
      _ = 1 := by norm_num
  have same := floor_eq_floor_iff least
  rw [← nanos_eq_floor_cut] at same
  refine ⟨⟨?_, ?_⟩, same, ?_⟩
  · rw [nanos_eq_floor_cut]
    exact Int.floor_mono least
  · rw [nanos_eq_floor_cut, ← Int.floor_add_one]
    exact Int.floor_mono most.le
  · intro kind
    by_cases short : c.fraction.length ≤ 18
    · rw [nanos_eq_floor_cut, exactNanos_eq c, leftOut_eq_zero short, zero_mul, add_zero]
    · obtain ⟨notMinute, notHour⟩ := kind.resolve_left short
      have divides : c.unit.nanos ∣ 10 ^ 18 := by
        cases unit : c.unit with
        | minute => exact absurd unit notMinute
        | hour => exact absurd unit notHour
        | _ => decide
      obtain ⟨parts, product⟩ := divides
      exact same.mpr (cut_exact digits (Nat.le_of_not_le short) product.symm)

end Component

namespace Duration

/-- A duration that is read is written by one sequence of components only.  It is the sum of what they
are read as, and each of them is read as what it writes, rounded down, but for the nanosecond that
only digits after the 18th complete. -/
theorem components_roundDown {text : String} {d : Duration} (found : read text = .ok d) :
    ∃ s : Spelling, s.WrittenAs text.toList ∧
      (∀ other : Spelling, other.WrittenAs text.toList → other = s) ∧
      d = ⟨s.nanos⟩ ∧ s.size = (s.components.map Component.nanos).sum ∧
      ∀ c ∈ s.components, c.RoundsDown := by
  obtain ⟨s, written⟩ := exists_spelling_of_read found
  have read := read_of_writtenAs written
  rw [found] at read
  split at read
  · refine ⟨s, written, fun other written' => spelling_unique written' written,
      Except.ok.inj read, sizeOf_eq_sum s.components, ?_⟩
    intro c mem
    obtain ⟨own, writtenOwn⟩ := written.exists_writtenAs c mem
    exact Component.roundsDown writtenOwn.isDigit_fraction
  · cases read

end Duration

/-! ## Rehearsed fractions -/

namespace Rehearsed

/-- A fraction of an hour that is longer than a nanosecond, as its 19th digit tells. -/
def longFraction : Component := ⟨['0'], "0000000000002777778".toList, .hour⟩

theorem longFraction_written : longFraction.WrittenAs "0.0000000000002777778h".toList := by
  have numeral : Numeral ['0'] "0000000000002777778".toList "0.0000000000002777778".toList :=
    .pointed (by decide) (by simp)
  exact .mk numeral List.mem_cons_self

/-- The same fraction, and a second one that is short. -/
def twoFractions : Spelling := ⟨false, [longFraction, ⟨['2'], ['5'], .second⟩]⟩

theorem twoFractions_written : twoFractions.WrittenAs "0.0000000000002777778h2.5s".toList := by
  have short : Component.WrittenAs ⟨['2'], ['5'], .second⟩ "2.5s".toList :=
    .mk (.pointed (by decide) (by simp)) List.mem_cons_self
  exact Spelling.writtenAs_flatten (by decide) (.cons longFraction_written (.cons short .nil))

end Rehearsed

namespace Duration

open Rehearsed in
theorem components_roundDown_rehearsed :
    read "0.0000000000002777778h2.5s" = .ok ⟨2500000000⟩ ∧
      twoFractions.WrittenAs "0.0000000000002777778h2.5s".toList ∧
      ∀ c ∈ twoFractions.components, c.RoundsDown := by
  have found : read "0.0000000000002777778h2.5s" = .ok ⟨2500000000⟩ := by
    rw [read_of_writtenAs twoFractions_written]
    decide +kernel
  obtain ⟨s, -, only, -, -, rounds⟩ := components_roundDown found
  rw [← only _ twoFractions_written] at rounds
  exact ⟨found, twoFractions_written, rounds⟩

open Rehearsed in
/-- The nanosecond that a 19th digit completes is lost. -/
theorem cut_short :
    (Spelling.mk false [longFraction]).WrittenAs "0.0000000000002777778h".toList ∧
      read "0.0000000000002777778h" = .ok ⟨0⟩ ∧ longFraction.nanos = 0 ∧
      ⌊longFraction.exactNanos⌋ = 1 := by
  have written : (Spelling.mk false [longFraction]).WrittenAs
      "0.0000000000002777778h".toList :=
    Spelling.writtenAs_flatten (by decide) (.cons longFraction_written .nil)
  have complete : ⌊longFraction.exactNanos⌋ = 1 := by
    rw [Component.floor_exactNanos]
    decide +kernel
  refine ⟨written, ?_, by decide +kernel, complete⟩
  rw [read_of_writtenAs written]
  decide +kernel

end Duration

end Retention
