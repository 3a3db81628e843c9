import Retention.Instant.Basic
import Retention.Text.Basic

/-!
# Reading instants

The reader takes RFC 3339 and is lenient where that does no harm: blanks may stand around the
numbers and their separators, a space may stand for the `T`, numbers need no leading zero, the year
may have a sign and more digits, and `UTC` may stand for the offset.  Digits after the ninth of a
fraction are dropped, and second 60 of any minute is a leap second.

Each reader takes a text and gives what stands at its start with the text after it.
-/

namespace Retention.Instant

/-- The number that up to `most` digits at the start of a text write. -/
def readNumber? (most : Nat) (text : List Char) : Option (Nat × List Char) :=
  let digits := (text.take most).takeWhile Char.isDigit
  if digits.isEmpty then none else some (Text.digitsValue digits, text.drop digits.length)

/-- The text after `c`, where it begins with it. -/
def afterChar? (c : Char) : List Char → Option (List Char)
  | d :: rest => if d = c then some rest else none
  | [] => none

/-- A year: up to four digits, or a sign and any number of digits. -/
def readYear? (text : List Char) : Option (Int × List Char) :=
  match text with
  | '-' :: rest => (readNumber? rest.length rest).map fun (n, rest) => (-(n : Int), rest)
  | '+' :: rest => (readNumber? rest.length rest).map fun (n, rest) => ((n : Int), rest)
  | text => (readNumber? 4 text).map fun (n, rest) => ((n : Int), rest)

/-- A number of one or two digits after blanks. -/
def readField? (text : List Char) : Option (Nat × List Char) :=
  readNumber? 2 (Text.trimStart text)

/-- A number of one or two digits after a separator, with blanks before each. -/
def readNextField? (separator : Char) (text : List Char) : Option (Nat × List Char) :=
  (afterChar? separator (Text.trimStart text)).bind readField?

/-- A date: year, month and day with `-` between them. -/
def readDate? (text : List Char) : Option (Date × List Char) := do
  let (year, text) ← readYear? (Text.trimStart text)
  let (month, text) ← readNextField? '-' text
  let (day, text) ← readNextField? '-' text
  some (⟨year, month, day⟩, text)

/-- The fraction of a second in nanoseconds: none where no point follows, else at least one digit.
The digits after the ninth are passed over. -/
def readFraction? (text : List Char) : Option (Nat × List Char) :=
  match text with
  | '.' :: rest =>
    let digits := rest.takeWhile Char.isDigit
    if digits.isEmpty then none
    else
      let kept := digits.take 9
      some (Text.digitsValue kept * Nat.pow 10 (9 - kept.length), rest.dropWhile Char.isDigit)
  | text => some (0, text)

/-- A time of day: hour, minute and second with `:` between them, and a fraction. -/
def readTime? (text : List Char) : Option ((Nat × Nat × Nat × Nat) × List Char) := do
  let (hour, text) ← readField? text
  let (minute, text) ← readNextField? ':' text
  let (second, text) ← readNextField? ':' text
  let (nano, text) ← readFraction? text
  some ((hour, minute, second, nano), text)

def readTwoDigits? : List Char → Option (Nat × List Char)
  | a :: b :: rest =>
    if a.isDigit && b.isDigit then some (Text.digitsValue [a, b], rest) else none
  | _ => none

/-- The size of an offset in seconds: two digits of hours, any colons and blanks, two digits of
minutes. -/
def readOffsetSize? (text : List Char) : Option (Nat × List Char) := do
  let (hours, text) ← readTwoDigits? text
  let (minutes, text) ← readTwoDigits? (text.dropWhile fun c => c == ':' || Text.isBlank c)
  if minutes < 60 then some (hours * 3600 + minutes * 60, text) else none

/-- The offset from universal time in seconds: `Z`, `UTC`, or a sign and a size. -/
def readOffset? (text : List Char) : Option (Int × List Char) :=
  match text with
  | u :: t :: c :: rest =>
    if u.toLower = 'u' ∧ t.toLower = 't' ∧ c.toLower = 'c' then some (0, rest) else readSigned text
  | text => readSigned text
where
  /-- An offset that is not written `UTC`. -/
  readSigned (text : List Char) : Option (Int × List Char) :=
    match text with
    | 'Z' :: rest => some (0, rest)
    | 'z' :: rest => some (0, rest)
    | '+' :: rest => (readOffsetSize? rest).map fun (n, rest) => ((n : Int), rest)
    | '-' :: rest => (readOffsetSize? rest).map fun (n, rest) => (-(n : Int), rest)
    | '\u2212' :: rest => (readOffsetSize? rest).map fun (n, rest) => (-(n : Int), rest)
    | _ => none

/-- The instant of a date and time of day on a clock that is `offset` seconds ahead of universal
time. -/
def ofClock? (date : Date) (hour minute second nano : Nat) (offset : Int) : Option Instant :=
  if date.isValid && firstYear ≤ date.year && date.year ≤ lastYear && hour ≤ 23 && minute ≤ 59 &&
      second ≤ 60 && offset.natAbs < 86400 then
    let held := min second 59
    let extra := if second = 60 then nanosPerSecond else 0
    of? (date.number * secondsPerDay + hour * 3600 + minute * 60 + held - offset) (nano + extra)
  else none

def read? (text : String) : Option Instant := do
  let (date, text) ← readDate? text.toList
  let (separator, text) ← text.head?.map fun c => (c, text.tail)
  if separator = 'T' ∨ separator = 't' ∨ separator = ' ' then
    let ((hour, minute, second, nano), text) ← readTime? text
    let (offset, text) ← readOffset? (Text.trimStart text)
    if (Text.trimStart text).isEmpty then ofClock? date hour minute second nano offset else none
  else none

end Retention.Instant
