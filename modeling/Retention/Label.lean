import Retention.Text.Basic
import Retention.TextMap

/-!
# Labels

The rules that label keys and values obey, and the selector that asks for objects carrying a set
of labels.  A name has 1 to 63 characters, letters, digits, `-`, `_` and `.`, with a letter or
digit at both ends.  A key is a name, or a prefix and a name with a slash between them; the prefix
is a lower-case domain name of at most 253 characters.  A value is empty or a name.

Lengths are counted in bytes of UTF-8.  `NameFault`, `KeyFault` and `LabelFault` say what is wrong,
in the order in which it is found.
-/

namespace Retention

/-! ## Faults -/

inductive NameFault where
  | empty
  | tooLong
  | malformed
  deriving DecidableEq, Repr

inductive KeyFault where
  | prefixEmpty
  | prefixTooLong
  | prefixMalformed
  | name (fault : NameFault)
  deriving DecidableEq, Repr

def maxNameLength : Nat := 63

def maxPrefixLength : Nat := 253

def NameFault.message (part : String) : NameFault → String
  | empty => part ++ " must not be empty"
  | tooLong => part ++ " must be no more than " ++ toString maxNameLength ++ " characters"
  | malformed => part ++ " must consist of alphanumeric characters, '-', '_' or '.', " ++
      "and must start and end with an alphanumeric character"

def KeyFault.message : KeyFault → String
  | prefixEmpty => "prefix part must not be empty"
  | prefixTooLong =>
    "prefix part must be no more than " ++ toString maxPrefixLength ++ " characters"
  | prefixMalformed => "prefix part must be a lowercase RFC 1123 subdomain"
  | name fault => fault.message "name part"

/-! ## Names and prefixes -/

def isAlphanumeric (c : Char) : Bool := c.isAlphanum

def isNameChar (c : Char) : Bool :=
  isAlphanumeric c || c == '-' || c == '_' || c == '.'

def isLowerAlphanumeric (c : Char) : Bool := c.isLower || c.isDigit

/-- Whether the first and the last character of a text are of a class. -/
def hasEnds (p : Char → Bool) (cs : List Char) : Bool :=
  cs.head?.any p && cs.getLast?.any p

/-- Whether a text has the form of a name, its length aside. -/
def isNameText (cs : List Char) : Bool :=
  cs.all isNameChar && hasEnds isAlphanumeric cs

/-- Whether a text is one part of a domain name. -/
def isDomainPart (cs : List Char) : Bool :=
  (cs.all fun c => isLowerAlphanumeric c || c == '-') && hasEnds isLowerAlphanumeric cs

/-- Whether a text is a domain name, its length aside: parts between dots. -/
def isDomain (cs : List Char) : Bool :=
  (Text.split '.' cs).all isDomainPart

def checkName (name : String) : Except NameFault Unit :=
  if name.isEmpty then .error .empty
  else if maxNameLength < name.utf8ByteSize then .error .tooLong
  else if isNameText name.toList then .ok ()
  else .error .malformed

def checkNamePart (name : String) : Except KeyFault Unit :=
  (checkName name).mapError .name

/-- Checks the key of a label, which is cut at its first slash. -/
def checkKey (key : String) : Except KeyFault Unit :=
  match Text.cutAt? '/' key.toList with
  | none => checkNamePart key
  | some (domain, name) =>
    if domain.isEmpty then .error .prefixEmpty
    else if maxPrefixLength < (String.ofList domain).utf8ByteSize then .error .prefixTooLong
    else if isDomain domain then checkNamePart (String.ofList name)
    else .error .prefixMalformed

def checkValue (value : String) : Except NameFault Unit :=
  if value.isEmpty then .ok () else checkName value

/-! ## Sets of labels -/

/-- Labels that an object has to carry, as a map from keys to values. -/
abbrev Labels := TextMap String

/-- The first fault in a set of labels: in the key of an entry or in its value. -/
inductive LabelFault where
  | key (key : String) (fault : KeyFault)
  | value (key value : String) (fault : NameFault)
  deriving DecidableEq, Repr

/-- Checks the key and then the value of one label. -/
def checkLabel (key value : String) : Except LabelFault Unit :=
  match checkKey key with
  | .error fault => .error (.key key fault)
  | .ok () => (checkValue value).mapError (.value key value)

/-- Checks entries one after the other. -/
def checkEntries : List (String × String) → Except LabelFault Unit
  | [] => .ok ()
  | (key, value) :: rest =>
    match checkLabel key value with
    | .error fault => .error fault
    | .ok () => checkEntries rest

namespace Labels

/-- Checks all labels of a set, in ascending order of their keys. -/
def check (labels : Labels) : Except LabelFault Unit :=
  checkEntries labels.entries

/-- The selector that asks for all labels of a set; none where the set is empty. -/
def selector (labels : Labels) : Option String :=
  if labels.isEmpty then none
  else some (",".intercalate (labels.entries.map fun entry => entry.1 ++ "=" ++ entry.2))

end Labels

end Retention
