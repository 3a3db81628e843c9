import Retention.Instant.Basic
import Retention.Text.Basic

/-!
# Writing instants

An instant is written in universal time as RFC 3339 has it: date, `T`, time of day, `Z`.  A leap
second is written as second 60.
-/

namespace Retention

/-- A number with at least `count` decimal digits. -/
def writtenNumber (count n : Nat) : List Char :=
  if n < Nat.pow 10 count then Text.fixedDigits count n else Nat.toDigits 10 n

/-- A year, in four digits where they are enough and with a sign where they are not. -/
def writtenYear (year : Int) : List Char :=
  if 0 ≤ year ∧ year ≤ 9999 then Text.fixedDigits 4 year.toNat
  else (if year < 0 then '-' else '+') :: writtenNumber 4 year.natAbs

def Date.write (d : Date) : List Char :=
  writtenYear d.year ++ '-' :: Text.fixedDigits 2 d.month ++ '-' :: Text.fixedDigits 2 d.day

/-- A fraction of a second in nanoseconds, with the fewest of zero, three, six and nine digits. -/
def writtenFraction (nanos : Nat) : List Char :=
  if nanos = 0 then []
  else if nanos % 1000000 = 0 then '.' :: Text.fixedDigits 3 (nanos / 1000000)
  else if nanos % 1000 = 0 then '.' :: Text.fixedDigits 6 (nanos / 1000)
  else '.' :: Text.fixedDigits 9 nanos

namespace Instant

/-- The second of the minute, which is 60 inside a leap second. -/
def clockSecond (t : Instant) : Nat :=
  (t.second % 60).toNat + if t.inLeapSecond then 1 else 0

/-- The nanoseconds that have passed of the second on the clock. -/
def clockNano (t : Instant) : Nat :=
  t.nano % nanosPerSecond

/-- Date and time of day up to the second. -/
def writtenSeconds (t : Instant) : List Char :=
  let time := (t.second % secondsPerDay).toNat
  (Date.ofNumber (t.second / secondsPerDay)).write ++
    'T' :: Text.fixedDigits 2 (time / 3600) ++
    ':' :: Text.fixedDigits 2 (time / 60 % 60) ++
    ':' :: Text.fixedDigits 2 t.clockSecond

/-- An instant with its fraction of a second. -/
def write (t : Instant) : String :=
  String.ofList (t.writtenSeconds ++ writtenFraction t.clockNano ++ ['Z'])

/-- An instant without its fraction of a second. -/
def writeWhole (t : Instant) : String :=
  String.ofList (t.writtenSeconds ++ ['Z'])

end Instant

end Retention
