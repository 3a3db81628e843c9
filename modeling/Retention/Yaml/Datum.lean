import Retention.Decimal
import Retention.Json.Reader
import Retention.Yaml.Token

/-!
# What scalars stand for

The text of a plain scalar says whether it stands for null, a truth value, a number or a text; a
tag says it for any scalar.  Every other scalar stands for its text.
-/

namespace Retention.Yaml

/-- What a scalar stands for.  The value of a number that is not whole does not count. -/
inductive Datum where
  | null
  | bool (value : Bool)
  | integer (value : Int)
  | real
  | text (value : String)
  deriving DecidableEq, Repr

/-! ## Null and truth values -/

def isNull (text : String) : Bool := ["~", "null", "Null", "NULL"].contains text

def readBool? (text : String) : Option Bool :=
  if ["true", "True", "TRUE"].contains text then some true
  else if ["false", "False", "FALSE"].contains text then some false
  else none

/-! ## Numbers -/

/-- A text without its sign, and whether the sign is a minus. -/
def splitSign : List Char → Bool × List Char
  | '-' :: rest => (true, rest)
  | '+' :: rest => (false, rest)
  | text => (false, text)

/-- Whether a text without sign is digits after a leading zero. -/
def isPadded (text : List Char) : Bool :=
  text.head? = some '0' && text.length ≠ 1 && text.all Char.isDigit

/-- The value of a digit of a base. -/
def digitOf? (base : Nat) (c : Char) : Option Nat :=
  (Json.hexValue? c).filter (· < base)

/-- The number that digits of a base write. -/
def digitsNumber? (base : Nat) (digits : List Char) : Option Nat :=
  if digits.isEmpty then none
  else digits.foldlM (fun value c => (digitOf? base c).map fun digit => value * base + digit) 0

/-- The number that a text without sign writes, in base 16, 8, 2 or 10. -/
def readNatural? (text : List Char) : Option Nat :=
  match text with
  | '0' :: 'x' :: digits => digitsNumber? 16 digits
  | '0' :: 'o' :: digits => digitsNumber? 8 digits
  | '0' :: 'b' :: digits => digitsNumber? 2 digits
  | digits => if isPadded digits then none else digitsNumber? 10 digits

/-- The whole number that a text writes, where a word of 128 bits holds it, signed or not. -/
def readInteger? (text : String) : Option Int :=
  let (negative, size) := splitSign text.toList
  (readNatural? size).bind fun n =>
    if negative then (if n ≤ Nat.pow 2 127 then some (-(n : Int)) else none)
    else if n < Nat.pow 2 128 then some (n : Int) else none

/-- The names of numbers that are not finite, without sign. -/
def infinityNames : List String := [".inf", ".Inf", ".INF"]

/-- The names of what is no number. -/
def noNumberNames : List String := [".nan", ".NaN", ".NAN"]

/-- Whether a text without sign writes a finite decimal number: digits on at least one side of a
point, and a power of ten. -/
def isDecimal (text : List Char) : Bool :=
  let whole := text.takeWhile Char.isDigit
  let afterWhole := text.drop whole.length
  let fraction := match afterWhole with
    | '.' :: rest => rest.takeWhile Char.isDigit
    | _ => []
  let afterFraction := match afterWhole with
    | '.' :: rest => rest.drop fraction.length
    | rest => rest
  match Decimal.readExponent? afterFraction with
  | some (exponent, []) =>
    !(whole.isEmpty && fraction.isEmpty) && Decimal.fitsDouble ⟨whole, fraction, exponent⟩
  | _ => false

/-- Whether a text writes a number in floating point. -/
def isReal (text : String) : Bool :=
  let (_, size) := splitSign text.toList
  noNumberNames.contains text || infinityNames.contains (String.ofList size) || isDecimal size

/-! ## Scalars -/

namespace Datum

/-- What a plain scalar without tag stands for.  A whole number that does not fit a word of 64 bits
but would fit one of 128 bits stands for nothing. -/
def ofPlain? (text : String) : Option Datum :=
  if text.isEmpty || isNull text then some null
  else
    match readBool? text with
    | some value => some (bool value)
    | none =>
      match readInteger? text with
      | some n => if Json.fitsWord n then some (integer n) else none
      | none =>
        if !isPadded (splitSign text.toList).2 && isReal text then some real
        else some (Datum.text text)

def standardTag (name : String) : String := "tag:yaml.org,2002:" ++ name

/-- What a scalar with a tag stands for: its text, where the tag is not one of those for which the
text is read. -/
def ofTagged? (tag text : String) : Option Datum :=
  if tag = standardTag "bool" then (readBool? text).map bool
  else if tag = standardTag "int" then
    ((readInteger? text).filter Json.fitsWord).map integer
  else if tag = standardTag "float" then if isReal text then some real else none
  else if tag = standardTag "null" then if isNull text then some null else none
  else some (Datum.text text)

/-- What a scalar stands for. -/
def ofScalar? (tag : Option String) (style : Style) (text : String) : Option Datum :=
  match tag with
  | some tag => ofTagged? tag text
  | none => if style = .plain then ofPlain? text else some (Datum.text text)

end Datum

end Retention.Yaml
