/-!
# Durations

A duration is a whole number of nanoseconds, negative or not.  The module also holds the units a
duration is written in and the reasons for which a text is not a duration.
-/

namespace Retention

structure Duration where
  nanos : Int
  deriving DecidableEq, Repr

inductive TimeUnit where
  | nanosecond
  | microsecond
  | millisecond
  | second
  | minute
  | hour
  deriving DecidableEq, Repr

namespace TimeUnit

def nanos : TimeUnit → Nat
  | nanosecond => 1
  | microsecond => 1000
  | millisecond => 1000000
  | second => 1000000000
  | minute => 60 * 1000000000
  | hour => 60 * 60 * 1000000000

/-- The unit that a name stands for.  The microsecond may be written with a plain `u`, with the
micro sign or with the Greek letter. -/
def ofName? : List Char → Option TimeUnit
  | ['n', 's'] => some nanosecond
  | ['u', 's'] => some microsecond
  | ['\u00b5', 's'] => some microsecond
  | ['\u03bc', 's'] => some microsecond
  | ['m', 's'] => some millisecond
  | ['s'] => some second
  | ['m'] => some minute
  | ['h'] => some hour
  | _ => none

end TimeUnit

inductive DurationError where
  /-- Nothing is left of the text without the blanks around it. -/
  | empty
  /-- No number stands at the start of `rest`. -/
  | expectedNumber (rest : String)
  | missingUnit (number : String)
  | unknownUnit (unit : String)
  | outOfRange
  deriving DecidableEq, Repr

def DurationError.message : DurationError → String
  | empty => "duration is empty"
  | expectedNumber rest => "expected a number at '" ++ rest ++ "'"
  | missingUnit number => "missing unit after '" ++ number ++ "'"
  | unknownUnit unit => "unknown unit '" ++ unit ++ "'"
  | outOfRange => "duration out of range"

end Retention
