import Retention.Instant.Calendar

/-!
# Instants

An instant is a second of universal time and the nanoseconds within it.  Seconds are counted from
the start of 1970 as if every day had 86400 of them.  A leap second has no count of its own: it is
held as the second before it with a thousand million nanoseconds more.

`Instant.back` goes back from an instant by a length of time.  It fails exactly where the calendar
ends, at the start of the year -262143.
-/

namespace Retention

def nanosPerSecond : Nat := 1000000000

def secondsPerDay : Int := 86400

def firstYear : Int := -262143

def lastYear : Int := 262142

/-- The first second of the calendar, at the start of its first year. -/
def firstSecond : Int := -8334601228800

/-- The last second of the calendar, at the end of its last year. -/
def lastSecond : Int := 8210266876799

/-- A moment of universal time between the ends of the calendar. -/
structure Instant where
  second : Int
  nano : Nat
  first_le : firstSecond ≤ second
  le_last : second ≤ lastSecond
  nano_lt : nano < 2 * nanosPerSecond
  leap : nanosPerSecond ≤ nano → second % 60 = 59
  deriving DecidableEq

namespace Instant

/-- The instant at a second and nanosecond, where the calendar has it. -/
def of? (second : Int) (nano : Nat) : Option Instant :=
  if h : (firstSecond ≤ second ∧ second ≤ lastSecond) ∧ nano < 2 * nanosPerSecond ∧
      (nanosPerSecond ≤ nano → second % 60 = 59) then
    some ⟨second, nano, h.1.1, h.1.2, h.2.1, h.2.2⟩
  else none

/-- The start of 1970. -/
def epoch : Instant := ⟨0, 0, by decide, by decide, by decide, by decide⟩

instance : Inhabited Instant := ⟨epoch⟩

def inLeapSecond (t : Instant) : Bool := nanosPerSecond ≤ t.nano

/-- Instants are ordered by their seconds and, within a second, by nanoseconds. -/
instance : LT Instant := ⟨fun s t => s.second < t.second ∨ (s.second = t.second ∧ s.nano < t.nano)⟩

instance (s t : Instant) : Decidable (s < t) :=
  inferInstanceAs (Decidable (s.second < t.second ∨ (s.second = t.second ∧ s.nano < t.nano)))

instance : LE Instant := ⟨fun s t => ¬ t < s⟩

instance (s t : Instant) : Decidable (s ≤ t) :=
  inferInstanceAs (Decidable (¬ t < s))

/-- The nanoseconds from the start of 1970 to an instant. -/
def sinceEpoch (t : Instant) : Int :=
  t.second * nanosPerSecond + t.nano

/-- The instant an age in nanoseconds before, where the calendar reaches back so far.

Less than a second back from inside a leap second stays in it or in the second it is held with;
any further back, the leap second counts as the second after. -/
def back (t : Instant) (age : Nat) : Option Instant :=
  let seconds := age / nanosPerSecond
  let nanos := age % nanosPerSecond
  if t.inLeapSecond && seconds = 0 then of? t.second (t.nano - nanos)
  else
    let second := if t.inLeapSecond then t.second + 1 else t.second
    let nano := if t.inLeapSecond then t.nano - nanosPerSecond else t.nano
    if nanos ≤ nano then of? (second - seconds) (nano - nanos)
    else of? (second - seconds - 1) (nano + nanosPerSecond - nanos)

end Instant

end Retention
