import Mathlib
import Retention.Instant.Basic

/-!
# Dates and their numbers

`Date.ofNumber` finds a date of the calendar for every number, and `Date.number` gives the number
back (`number_ofNumber`, `isValid_ofNumber`).  The day lies in the year that `yearOf` estimates
because years begin where `daysBeforeYear` says, each as long as its months together
(`daysBeforeYear_succ`); in the year, `splitYear` goes through the months one by one.

The days of all instants lie in the years of the calendar (`year_ofNumber`).
-/

namespace Retention

/-! ## Years -/

def yearLength (year : Int) : Nat :=
  if isLeapYear year then 366 else 365

theorem sum_monthLengths (year : Int) : (monthLengths year).sum = yearLength year := by
  unfold monthLengths yearLength
  cases isLeapYear year <;> rfl

/-- A year begins where the year before it ends. -/
theorem daysBeforeYear_succ (year : Int) :
    daysBeforeYear (year + 1) = daysBeforeYear year + yearLength year := by
  unfold daysBeforeYear yearLength
  have leap : isLeapYear year = true ↔ year % 4 = 0 ∧ (year % 100 ≠ 0 ∨ year % 400 = 0) := by
    simp [isLeapYear]
  split
  next is =>
    rw [leap] at is
    omega
  next isNot =>
    rw [leap] at isNot
    omega

theorem daysBeforeYear_mono {a b : Int} (le : a ≤ b) : daysBeforeYear a ≤ daysBeforeYear b := by
  obtain ⟨years, rfl⟩ := Int.le.dest le
  clear le
  induction years with
  | zero => simp
  | succ years ih =>
    have step := daysBeforeYear_succ (a + years)
    rw [Int.natCast_succ, ← Int.add_assoc]
    omega

namespace Date

/-- Every day lies in its year. -/
theorem yearOf_spec (days : Int) :
    daysBeforeYear (yearOf days) ≤ days ∧ days < daysBeforeYear (yearOf days + 1) := by
  unfold yearOf
  simp only
  -- The estimate is off by at most one, since 400 years have 146097 days.
  generalize estimated : 400 * days / 146097 = estimate
  split
  next early =>
    rw [Int.sub_add_cancel]
    unfold daysBeforeYear at early ⊢
    omega
  next =>
    split
    next late =>
      unfold daysBeforeYear at late ⊢
      omega
    next => omega

/-! ## Months -/

/-- A day of a year is the day of a month of it. -/
theorem splitYear_spec {lengths : List Nat} {day : Nat} (inside : day < lengths.sum) :
    ∃ before length after, lengths = before ++ length :: after ∧
      (splitYear lengths day).1 = before.length + 1 ∧ 1 ≤ (splitYear lengths day).2 ∧
      (splitYear lengths day).2 ≤ length ∧ before.sum + (splitYear lengths day).2 = day + 1 := by
  induction lengths generalizing day with
  | nil => cases inside
  | cons first rest ih =>
    rw [List.sum_cons] at inside
    unfold splitYear
    split
    next early => exact ⟨[], first, rest, rfl, rfl, Nat.le_add_left 1 day, early, Nat.zero_add _⟩
    next late =>
      obtain ⟨before, length, after, rfl, month, first_le, le_last, total⟩ :=
        @ih (day - first) (by omega)
      refine ⟨first :: before, length, after, rfl, ?_, first_le, le_last, ?_⟩
      · simp only [month, List.length_cons]
      · simp only [List.sum_cons]
        omega

/-! ## Dates -/

/-- The date of a number, and the month that it lies in. -/
theorem ofNumber_spec (number : Int) :
    ∃ before length after, monthLengths (ofNumber number).year = before ++ length :: after ∧
      (ofNumber number).month = before.length + 1 ∧ 1 ≤ (ofNumber number).day ∧
      (ofNumber number).day ≤ length ∧
      daysBeforeYear (ofNumber number).year + before.sum + (ofNumber number).day =
        number + epochDays + 1 := by
  obtain ⟨le, lt⟩ := yearOf_spec (number + epochDays)
  rw [daysBeforeYear_succ, ← sum_monthLengths] at lt
  obtain ⟨before, length, after, months, month, first_le, le_last, total⟩ :=
    @splitYear_spec (monthLengths (yearOf (number + epochDays)))
      (number + epochDays - daysBeforeYear (yearOf (number + epochDays))).toNat (by omega)
  refine ⟨before, length, after, months, month, first_le, le_last, ?_⟩
  simp only [ofNumber]
  omega

/-- There are at most twelve months, of at most 31 days. -/
theorem ofNumber_le (number : Int) : (ofNumber number).month ≤ 12 ∧ (ofNumber number).day ≤ 31 := by
  obtain ⟨before, length, after, months, month, -, le_last, -⟩ := ofNumber_spec number
  have count := congrArg List.length months
  have longest : ∀ length ∈ monthLengths (ofNumber number).year, length ≤ 31 := by
    unfold monthLengths
    cases isLeapYear (ofNumber number).year <;> decide
  have short := longest length (by simp [months])
  have twelve : (monthLengths (ofNumber number).year).length = 12 := rfl
  rw [twelve, List.length_append, List.length_cons] at count
  omega

theorem isValid_ofNumber (number : Int) : (ofNumber number).isValid = true := by
  obtain ⟨before, length, after, months, month, first_le, le_last, -⟩ := ofNumber_spec number
  simp only [isValid, month, months, List.getElem?_append_right (Nat.le_refl _), Nat.sub_self,
    List.getElem?_cons_zero, Bool.and_eq_true, decide_eq_true_eq]
  exact ⟨first_le, le_last⟩

/-- The date of a number has this number. -/
theorem number_ofNumber (number : Int) : (ofNumber number).number = number := by
  obtain ⟨before, length, after, months, month, first_le, -, total⟩ := ofNumber_spec number
  have sum : before.foldl Nat.add 0 = before.sum := List.sum_eq_foldl.symm
  simp only [Date.number, month, months, Nat.add_sub_cancel, List.take_left, sum]
  omega

/-- The numbers of the calendar's days have years of the calendar. -/
theorem year_ofNumber (number : Int) (first_le : firstSecond ≤ number * secondsPerDay + 86399)
    (le_last : number * secondsPerDay ≤ lastSecond) :
    firstYear ≤ (ofNumber number).year ∧ (ofNumber number).year ≤ lastYear := by
  have year : (ofNumber number).year = yearOf (number + epochDays) := rfl
  obtain ⟨le, lt⟩ := yearOf_spec (number + epochDays)
  have first : daysBeforeYear firstYear = -95745764 := by decide
  have last : daysBeforeYear (lastYear + 1) = 95745765 := by decide
  rw [year]
  unfold firstSecond lastSecond secondsPerDay at *
  unfold epochDays at *
  constructor
  · rcases Int.lt_or_le (yearOf (number + 719528)) firstYear with less | le
    · have before := daysBeforeYear_mono (show yearOf (number + 719528) + 1 ≤ firstYear from less)
      omega
    · exact le
  · rcases Int.lt_or_le lastYear (yearOf (number + 719528)) with less | le
    · have after := daysBeforeYear_mono (show lastYear + 1 ≤ yearOf (number + 719528) from less)
      omega
    · exact le

end Date

end Retention
