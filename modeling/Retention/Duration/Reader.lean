import Retention.Duration.Basic
import Retention.Text.Basic

/-!
# Reading durations

A written duration is an optional sign followed by a lone `0` or by one or more components, each a
decimal number and the name of a unit, with blanks around the whole.  `Component.nanos` is what a
component is worth, and `Duration.read` adds the components up.

The sum is kept below `sumBound` after each component and has to fit a signed word of 64 bits at
the end; a sum too large for either is out of range.
-/

namespace Retention

/-! ## Components -/

/-- One number with its unit, as the digits on either side of its point. -/
structure Component where
  whole : List Char
  fraction : List Char
  unit : TimeUnit
  deriving DecidableEq, Repr

namespace Component

def fractionPlaces : Nat := 18

/-- The fraction digits that are read; those after them are dropped. -/
def fractionDigits (c : Component) : List Char :=
  c.fraction.take fractionPlaces

/-- The number that the fraction digits write, times the unit. -/
def fractionProduct (c : Component) : Nat :=
  Text.digitsValue c.fractionDigits * c.unit.nanos

/-- The worth of a component in nanoseconds: its whole part in full, its fraction rounded down. -/
def nanos (c : Component) : Nat :=
  Text.digitsValue c.whole * c.unit.nanos + c.fractionProduct / Nat.pow 10 c.fractionDigits.length

/-- The characters that belong to a number rather than to the name of a unit. -/
def isNumberChar (c : Char) : Bool :=
  c.isDigit || c == '.'

/-- The component at the start of a text, and the text after it. -/
def read (text : List Char) : Except DurationError (Component × List Char) :=
  let number := text.takeWhile isNumberChar
  let rest := text.dropWhile isNumberChar
  let parts := (Text.cutAt? '.' number).getD (number, [])
  if (parts.1.isEmpty && parts.2.isEmpty) || parts.2.contains '.' then
    .error (.expectedNumber (String.ofList text))
  else
    let name := rest.takeWhile fun c => !isNumberChar c
    if name.isEmpty then .error (.missingUnit (String.ofList number))
    else
      match TimeUnit.ofName? name with
      | none => .error (.unknownUnit (String.ofList name))
      | some unit =>
        .ok (⟨parts.1, parts.2, unit⟩, rest.dropWhile fun c => !isNumberChar c)

theorem read_shorter {text rest : List Char} {c : Component} (h : read text = .ok (c, rest)) :
    rest.length < text.length := by
  unfold read at h
  simp only at h
  split at h
  · cases h
  next hnumber =>
    split at h
    · cases h
    next hname =>
      split at h
      · cases h
      · simp only [Except.ok.injEq, Prod.mk.injEq] at h
        have hsplit := List.takeWhile_append_dropWhile
          (p := fun c => !isNumberChar c) (l := text.dropWhile isNumberChar)
        have hlen := congrArg List.length hsplit
        have hdrop := (List.dropWhile_sublist isNumberChar (l := text)).length_le
        have hpos : 0 < (List.takeWhile (fun c => !isNumberChar c)
            (text.dropWhile isNumberChar)).length := by
          rw [List.length_pos_iff]
          intro hnil
          exact hname (by simp [hnil])
        rw [List.length_append, h.2] at hlen
        omega

end Component

/-! ## Durations -/

namespace Duration

/-- The sum of the components stays below this bound while they are added up. -/
def sumBound : Nat := Nat.pow 2 128

def maxNanos : Nat := Nat.pow 2 63 - 1

/-- The sum of `total` and the worth of all components that a text consists of. -/
def sumComponents (total : Nat) (text : List Char) : Except DurationError Nat :=
  match text with
  | [] => .ok total
  | c :: cs =>
    match _h : Component.read (c :: cs) with
    | .error e => .error e
    | .ok (component, rest) =>
      if total + component.nanos < sumBound then sumComponents (total + component.nanos) rest
      else .error .outOfRange
termination_by text.length
decreasing_by exact Component.read_shorter _h

/-- Whether a text begins with a minus sign, and the text after its sign. -/
def cutSign : List Char → Bool × List Char
  | '-' :: rest => (true, rest)
  | '+' :: rest => (false, rest)
  | text => (false, text)

/-- The size of a duration written without a sign. -/
def readSize (text : List Char) : Except DurationError Nat :=
  if text = ['0'] then .ok 0
  else if text = [] then .error (.expectedNumber "")
  else
    match sumComponents 0 text with
    | .error e => .error e
    | .ok total => if total ≤ maxNanos then .ok total else .error .outOfRange

/-- Reads a duration such as `3h`, `-1h30m` or `1.5s`. -/
def read (text : String) : Except DurationError Duration :=
  match Text.trim text.toList with
  | [] => .error .empty
  | c :: cs =>
    let signed := cutSign (c :: cs)
    (readSize signed.2).map fun size => ⟨if signed.1 then -(size : Int) else size⟩

end Duration

end Retention
