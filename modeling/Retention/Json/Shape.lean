import Retention.Json.Basic

/-!
# Shapes of JSON values

What the readers of this library ask of a value before they take something from it.  A reader of an
object asks for the kinds of the members it knows, each time that they are given; others do not count.
-/

namespace Retention

/-- Whether a value is null or satisfies `p`. -/
def nullOr (p : Json → Bool) (value : Json) : Bool :=
  value == .null || p value

def isText (value : Json) : Bool := value.string?.isSome

def isTruth (value : Json) : Bool := value.bool?.isSome

/-- Whether a value is an integer from `low` to `high`. -/
def isIntegerFrom (low high : Int) (value : Json) : Bool :=
  value.integer?.any fun n => low ≤ n && n ≤ high

/-- Whether a value is an integer that fits a signed word of 32 bits. -/
def isSmallInteger : Json → Bool := isIntegerFrom Int32.minValue.toInt Int32.maxValue.toInt

/-- Whether a value is an integer that fits a signed word of 64 bits. -/
def isLongInteger : Json → Bool := isIntegerFrom Int64.minValue.toInt Int64.maxValue.toInt

def isArrayOf (p : Json → Bool) (value : Json) : Bool := value.items?.any (·.all p)

/-- Whether a value is an object in which every member satisfies `p`. -/
def isMapOf (p : Json → Bool) (value : Json) : Bool :=
  value.members?.any (·.all fun member => p member.2)

/-- What is asked of members, by their names. -/
abbrev MemberKinds := List (String × (Json → Bool))

/-- The kinds of members that may be null. -/
def MemberKinds.optional (kinds : MemberKinds) : MemberKinds :=
  kinds.map fun kind => (kind.1, nullOr kind.2)

/-- Whether a value is an object whose members are of their kinds. -/
def MemberKinds.fit (kinds : MemberKinds) (value : Json) : Bool :=
  value.members?.any (·.all fun member => (kinds.lookup member.1).all (· member.2))

/-- Whether a name occurs twice among members. -/
def isRepeated (name : String) (members : List (String × Json)) : Bool :=
  2 ≤ members.countP fun member => member.1 = name

/-- Whether a value is a record: an object whose members are of their kinds and not repeated, or an
array of the first of them in their order. -/
def MemberKinds.fitRecord (kinds : MemberKinds) (value : Json) : Bool :=
  match value with
  | .object members => !kinds.any (isRepeated ·.1 members) && kinds.fit value
  | .array items =>
    items.length ≤ kinds.length && (items.zip kinds).all fun (item, kind) => kind.2 item
  | _ => false

end Retention
