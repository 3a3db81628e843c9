import Retention.Text.Basic

/-!
# Decimal literals

A number written with a point and a power of ten, and the question whether the double nearest to it
is finite.  The question is settled in whole numbers: a literal rounds to an infinite double when
it is at least halfway between the greatest finite double and the next power of two.
-/

namespace Retention

/-- A decimal literal: the digits on either side of its point, and its power of ten. -/
structure Decimal where
  whole : List Char
  fraction : List Char
  exponent : Int
  deriving DecidableEq, Repr

namespace Decimal

/-- Halfway between the greatest finite double and the power of two above it. -/
def doubleBound : Nat := Nat.pow 2 1024 - Nat.pow 2 970

def mantissa (d : Decimal) : Nat :=
  Text.digitsValue (d.whole ++ d.fraction)

def scale (d : Decimal) : Int :=
  d.exponent - d.fraction.length

/-- Whether the double nearest to a literal is finite.  The count of digits decides far from the
bound, so that no great power of ten is computed there. -/
def fitsDouble (d : Decimal) : Bool :=
  let places : Int := (Nat.toDigits 10 d.mantissa).length + d.scale
  if d.mantissa = 0 || places ≤ 308 then true
  else if 311 ≤ places then false
  else if 0 ≤ d.scale then d.mantissa * Nat.pow 10 d.scale.toNat < doubleBound
  else d.mantissa < doubleBound * Nat.pow 10 (-d.scale).toNat

/-- The power of ten at the start of a text, zero where none is written, and the text after it.
None where an `e` is not followed by digits. -/
def readExponent? (text : List Char) : Option (Int × List Char) :=
  match text with
  | c :: rest =>
    if c = 'e' ∨ c = 'E' then
      let signed : Bool × List Char := match rest with
        | '-' :: digits => (true, digits)
        | '+' :: digits => (false, digits)
        | digits => (false, digits)
      let digits := signed.2.takeWhile Char.isDigit
      if digits.isEmpty then none
      else
        let size : Int := Text.digitsValue digits
        some (if signed.1 then -size else size, signed.2.dropWhile Char.isDigit)
    else some (0, text)
  | [] => some (0, [])

end Decimal

end Retention
