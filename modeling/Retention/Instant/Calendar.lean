/-!
# The calendar

Dates of the Gregorian calendar, extended to all years, and their numbers counted in days from the
first of January 1970.  `Date.number` counts the days before a date; `Date.ofNumber` finds the year
by an estimate that is off by at most one and then walks through the lengths of its months.
-/

namespace Retention

def isLeapYear (year : Int) : Bool :=
  year % 4 = 0 && (year % 100 ≠ 0 || year % 400 = 0)

/-- The lengths of the months of a year, from January. -/
def monthLengths (year : Int) : List Nat :=
  [31, if isLeapYear year then 29 else 28, 31, 30, 31, 30, 31, 31, 30, 31, 30, 31]

/-- The days from the start of year 0 to the start of a year. -/
def daysBeforeYear (year : Int) : Int :=
  365 * year + (year + 3) / 4 - (year + 99) / 100 + (year + 399) / 400

/-- The days from the start of year 0 to the start of 1970. -/
def epochDays : Int := 719528

/-- A day by year, month and day of the month, both counted from one. -/
structure Date where
  year : Int
  month : Nat
  day : Nat
  deriving DecidableEq, Repr

namespace Date

def isValid (d : Date) : Bool :=
  match d.month with
  | 0 => false
  | month + 1 =>
    match (monthLengths d.year)[month]? with
    | some length => 1 ≤ d.day && d.day ≤ length
    | none => false

/-- The days from the first of January 1970 to a date. -/
def number (d : Date) : Int :=
  let before := ((monthLengths d.year).take (d.month - 1)).foldl Nat.add 0
  daysBeforeYear d.year + before + d.day - 1 - epochDays

/-- The year that holds the day with this count of days before it since the start of year 0. -/
def yearOf (days : Int) : Int :=
  let estimate := 400 * days / 146097
  if days < daysBeforeYear estimate then estimate - 1
  else if daysBeforeYear (estimate + 1) ≤ days then estimate + 1
  else estimate

/-- The month and the day in it, both counted from one, of a day of the year counted from zero. -/
def splitYear : (lengths : List Nat) → (day : Nat) → Nat × Nat
  | [], day => (1, day + 1)
  | length :: lengths, day =>
    if day < length then (1, day + 1)
    else
      let rest := splitYear lengths (day - length)
      (rest.1 + 1, rest.2)

/-- The date with a number of days before it since the first of January 1970. -/
def ofNumber (number : Int) : Date :=
  let days := number + epochDays
  let year := yearOf days
  let split := splitYear (monthLengths year) (days - daysBeforeYear year).toNat
  ⟨year, split.1, split.2⟩

end Date

end Retention
