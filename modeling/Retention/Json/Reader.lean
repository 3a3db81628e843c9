import Retention.Decimal
import Retention.Json.Basic

/-!
# Reading JSON

The grammar of RFC 8259, read from the front: a reader takes the text and gives the value at its
start with the text after it.  Arrays and objects may be nested `maxDepth` deep.
-/

namespace Retention.Json

/-! ## Blanks and literals -/

/-- The characters that may stand between the parts of a JSON text. -/
def isSpace (c : Char) : Bool :=
  c == ' ' || c == '\n' || c == '\t' || c == '\r'

/-- The text from its first character that is not a space. -/
def skipSpace (text : List Char) : List Char :=
  text.dropWhile isSpace

/-- The text after `word`, where it begins with it. -/
def after? (word : List Char) (text : List Char) : Option (List Char) :=
  if word.isPrefixOf text then some (text.drop word.length) else none

/-! ## Numbers -/

/-- The integers that a word of 64 bits holds, signed or not. -/
def fitsWord (value : Int) : Bool :=
  Int64.minValue.toInt ≤ value && value < UInt64.size

/-- The number at the start of a text. -/
def readNumber? (text : List Char) : Option (Json × List Char) :=
  let signed : Bool × List Char := match text with
    | '-' :: rest => (true, rest)
    | rest => (false, rest)
  let whole := signed.2.takeWhile Char.isDigit
  let afterWhole := signed.2.dropWhile Char.isDigit
  if whole.isEmpty || (whole.head? == some '0' && whole.length ≠ 1) then none
  else
    let fraction? : Option (List Char × List Char) := match afterWhole with
      | '.' :: rest =>
        let digits := rest.takeWhile Char.isDigit
        if digits.isEmpty then none else some (digits, rest.dropWhile Char.isDigit)
      | rest => some ([], rest)
    fraction?.bind fun (fraction, afterFraction) =>
      (Decimal.readExponent? afterFraction).bind fun (exponent, rest) =>
        let size : Int := Text.digitsValue whole
        let value := if signed.1 then -size else size
        let plain := rest.length = afterWhole.length
        if plain && fitsWord value && !(signed.1 && size = 0) then some (integer value, rest)
        else if Decimal.fitsDouble ⟨whole, fraction, exponent⟩ then
          some (real (String.ofList (text.take (text.length - rest.length))), rest)
        else none

/-! ## Strings -/

def hexValue? (c : Char) : Option Nat :=
  if c.isDigit then some (c.toNat - '0'.toNat)
  else if 'a' ≤ c ∧ c ≤ 'f' then some (c.toNat - 'a'.toNat + 10)
  else if 'A' ≤ c ∧ c ≤ 'F' then some (c.toNat - 'A'.toNat + 10)
  else none

/-- The number that hexadecimal digits write. -/
def hexNumber? (digits : List Char) : Option Nat :=
  digits.foldlM (fun value c => (hexValue? c).map fun digit => value * 16 + digit) 0

/-- The character that a one-letter escape stands for. -/
def escaped? : Char → Option Char
  | '"' => some '"'
  | '\\' => some '\\'
  | '/' => some '/'
  | 'b' => some '\x08'
  | 'f' => some '\x0c'
  | 'n' => some '\n'
  | 'r' => some '\r'
  | 't' => some '\t'
  | _ => none

/-- The code points up to the closing quote, with the halves of a surrogate pair still apart, and
the text after the quote. -/
def readUnits? : List Char → Option (List Nat × List Char)
  | [] => none
  | '"' :: rest => some ([], rest)
  | '\\' :: 'u' :: a :: b :: c :: d :: rest =>
    (hexNumber? [a, b, c, d]).bind fun unit =>
      (readUnits? rest).map fun (units, after) => (unit :: units, after)
  | '\\' :: c :: rest =>
    (escaped? c).bind fun c =>
      (readUnits? rest).map fun (units, after) => (c.toNat :: units, after)
  | c :: rest =>
    if c.toNat < 0x20 then none
    else (readUnits? rest).map fun (units, after) => (c.toNat :: units, after)

/-- The characters of code points in which surrogates come in pairs. -/
def joinSurrogates? : List Nat → Option (List Char)
  | [] => some []
  | high :: rest =>
    if 0xD800 ≤ high ∧ high < 0xDC00 then
      match rest with
      | low :: rest =>
        if 0xDC00 ≤ low ∧ low < 0xE000 then
          (joinSurrogates? rest).map fun cs =>
            Char.ofNat (0x10000 + (high - 0xD800) * 0x400 + (low - 0xDC00)) :: cs
        else none
      | [] => none
    else if 0xDC00 ≤ high ∧ high < 0xE000 then none
    else (joinSurrogates? rest).map fun cs => Char.ofNat high :: cs

/-- The string whose opening quote has been read. -/
def readString? (text : List Char) : Option (String × List Char) :=
  (readUnits? text).bind fun (units, rest) =>
    (joinSurrogates? units).map fun cs => (String.ofList cs, rest)

/-! ## Values -/

/-- How deep arrays and objects may be nested. -/
def maxDepth : Nat := 127

mutual

/-- The value at the start of a text without space before it.  `fuel` bounds the calls and `depth`
the nesting. -/
def readValue? (fuel depth : Nat) (text : List Char) : Option (Json × List Char) :=
  match fuel with
  | 0 => none
  | fuel + 1 =>
    match text with
    | [] => none
    | '"' :: rest => (readString? rest).map fun (value, rest) => (string value, rest)
    | '[' :: rest =>
      match depth with
      | 0 => none
      | depth + 1 =>
        match skipSpace rest with
        | ']' :: rest => some (array [], rest)
        | rest => (readItems? fuel depth rest).map fun (items, rest) => (array items, rest)
    | '\x7b' :: rest =>
      match depth with
      | 0 => none
      | depth + 1 =>
        match skipSpace rest with
        | '\x7d' :: rest => some (object [], rest)
        | rest => (readMembers? fuel depth rest).map fun (members, rest) => (object members, rest)
    | 'n' :: rest => (after? ['u', 'l', 'l'] rest).map fun rest => (null, rest)
    | 't' :: rest => (after? ['r', 'u', 'e'] rest).map fun rest => (bool true, rest)
    | 'f' :: rest => (after? ['a', 'l', 's', 'e'] rest).map fun rest => (bool false, rest)
    | text => readNumber? text

/-- The items of an array that has at least one more, and the text after its bracket. -/
def readItems? (fuel depth : Nat) (text : List Char) : Option (List Json × List Char) :=
  match fuel with
  | 0 => none
  | fuel + 1 =>
    match readValue? fuel depth (skipSpace text) with
    | none => none
    | some (item, rest) =>
      match skipSpace rest with
      | ']' :: rest => some ([item], rest)
      | ',' :: rest =>
        (readItems? fuel depth rest).map fun (items, rest) => (item :: items, rest)
      | _ => none

/-- The members of an object that has at least one more, and the text after its brace. -/
def readMembers? (fuel depth : Nat) (text : List Char) :
    Option (List (String × Json) × List Char) :=
  match fuel with
  | 0 => none
  | fuel + 1 =>
    match skipSpace text with
    | '"' :: rest =>
      match readString? rest with
      | none => none
      | some (name, rest) =>
        match skipSpace rest with
        | ':' :: rest =>
          match readValue? fuel depth (skipSpace rest) with
          | none => none
          | some (value, rest) =>
            match skipSpace rest with
            | '\x7d' :: rest => some ([(name, value)], rest)
            | ',' :: rest =>
              (readMembers? fuel depth rest).map fun (members, rest) =>
                ((name, value) :: members, rest)
            | _ => none
        | _ => none
    | _ => none

end

/-- The value that a whole text writes, with the members of objects as they stand in it. -/
def read? (text : String) : Option Json :=
  let cs := skipSpace text.toList
  match readValue? (2 * cs.length + 2) maxDepth cs with
  | some (value, rest) => if (skipSpace rest).isEmpty then some value else none
  | none => none

end Retention.Json
