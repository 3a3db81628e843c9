import Retention.TextMap

/-!
# JSON values

The values of JSON, with the members of an object in the order of their text and integers apart
from other numbers.  `Json.settled` is the value that a text with repeated members stands for.
-/

namespace Retention

/-- A JSON value.  An integer is a number written without fraction and exponent that fits a word of
64 bits, signed or not; every other number is kept as it is written. -/
inductive Json where
  | null
  | bool (value : Bool)
  | integer (value : Int)
  | real (text : String)
  | string (value : String)
  | array (items : List Json)
  | object (members : List (String × Json))
  deriving Inhabited

namespace Json

/-! ## Equality -/

mutual

def decEq : (a b : Json) → Decidable (a = b)
  | null, null => .isTrue rfl
  | bool a, bool b => decidable_of_iff (a = b) (by simp)
  | integer a, integer b => decidable_of_iff (a = b) (by simp)
  | real a, real b => decidable_of_iff (a = b) (by simp)
  | string a, string b => decidable_of_iff (a = b) (by simp)
  | array a, array b =>
    match decEqItems a b with
    | .isTrue h => .isTrue (congrArg array h)
    | .isFalse h => .isFalse fun hab => h (array.inj hab)
  | object a, object b =>
    match decEqMembers a b with
    | .isTrue h => .isTrue (congrArg object h)
    | .isFalse h => .isFalse fun hab => h (object.inj hab)
  | null, bool _ | null, integer _ | null, real _ | null, string _ | null, array _
  | null, object _ => .isFalse nofun
  | bool _, null | bool _, integer _ | bool _, real _ | bool _, string _ | bool _, array _
  | bool _, object _ => .isFalse nofun
  | integer _, null | integer _, bool _ | integer _, real _ | integer _, string _
  | integer _, array _ | integer _, object _ => .isFalse nofun
  | real _, null | real _, bool _ | real _, integer _ | real _, string _ | real _, array _
  | real _, object _ => .isFalse nofun
  | string _, null | string _, bool _ | string _, integer _ | string _, real _ | string _, array _
  | string _, object _ => .isFalse nofun
  | array _, null | array _, bool _ | array _, integer _ | array _, real _ | array _, string _
  | array _, object _ => .isFalse nofun
  | object _, null | object _, bool _ | object _, integer _ | object _, real _
  | object _, string _ | object _, array _ => .isFalse nofun

def decEqItems : (a b : List Json) → Decidable (a = b)
  | [], [] => .isTrue rfl
  | [], _ :: _ => .isFalse nofun
  | _ :: _, [] => .isFalse nofun
  | a :: as, b :: bs =>
    match decEq a b, decEqItems as bs with
    | .isTrue h, .isTrue hs => .isTrue (by rw [h, hs])
    | .isFalse h, _ => .isFalse fun hab => h (List.cons.inj hab).1
    | _, .isFalse hs => .isFalse fun hab => hs (List.cons.inj hab).2

def decEqMembers : (a b : List (String × Json)) → Decidable (a = b)
  | [], [] => .isTrue rfl
  | [], _ :: _ => .isFalse nofun
  | _ :: _, [] => .isFalse nofun
  | (k, a) :: as, (l, b) :: bs =>
    if hk : k = l then
      match decEq a b, decEqMembers as bs with
      | .isTrue h, .isTrue hs => .isTrue (by rw [hk, h, hs])
      | .isFalse h, _ => .isFalse fun hab => h (Prod.mk.inj (List.cons.inj hab).1).2
      | _, .isFalse hs => .isFalse fun hab => hs (List.cons.inj hab).2
    else .isFalse fun hab => hk (Prod.mk.inj (List.cons.inj hab).1).1

end

instance : DecidableEq Json := decEq

/-! ## Members -/

/-- The object with the members of a map. -/
def ofMap (m : TextMap Json) : Json := object m.entries

def members? : Json → Option (List (String × Json))
  | object members => some members
  | _ => none

/-- The value of the first member with a name. -/
def member? (name : String) : Json → Option Json
  | object members => members.lookup name
  | _ => none

def string? : Json → Option String
  | string value => some value
  | _ => none

def items? : Json → Option (List Json)
  | array items => some items
  | _ => none

def bool? : Json → Option Bool
  | bool value => some value
  | _ => none

def integer? : Json → Option Int
  | integer value => some value
  | _ => none

mutual

/-- The value with the members of every object in ascending order of their names, each once: of
members with one name the last counts. -/
def settled : Json → Json
  | array items => array (settledItems items)
  | object members => object (settledMembers members [])
  | value => value

/-- The items of an array, each settled. -/
def settledItems : List Json → List Json
  | [] => []
  | item :: items => item.settled :: settledItems items

/-- The members of an object added one by one, each settled, to those in `done`. -/
def settledMembers : List (String × Json) → List (String × Json) → List (String × Json)
  | [], done => done
  | (name, value) :: members, done =>
    settledMembers members (insertEntry name value.settled done)

end

end Json

end Retention
