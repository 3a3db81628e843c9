import Retention.Json.Reader
import Retention.Yaml.Text

/-!
# Tags and directives of YAML

Readers of tags, and of the directives that say which version of YAML a document is in and which
tags a handle stands for.  They take the text from its indicator and give what is read with the text
after it.
-/

namespace Retention.Yaml

/-! ## Handles and addresses -/

/-- The name at the start of a text, and the text after it. -/
def readName (text : List Char) : List Char × List Char :=
  (text.takeWhile isWordChar, text.dropWhile isWordChar)

/-- A handle and the text after it: an exclamation mark, a name, and another mark if it is there. -/
def readHandle? : List Char → Option (List Char × List Char)
  | '!' :: text =>
    let (name, rest) := readName text
    match rest with
    | '!' :: rest => some ('!' :: name ++ ['!'], rest)
    | rest => some ('!' :: name, rest)
  | _ => none

/-- The characters that an address may hold as they are.  Commas and square brackets are among them
where it stands apart from a flow collection. -/
def isAddressChar (apart : Bool) (c : Char) : Bool :=
  isWordChar c || [';', '/', '?', ':', '@', '&', '=', '+', '$', '.', '!', '~', '*', '\'', '(',
    ')'].contains c || (apart && [',', '[', ']'].contains c)

/-- The bytes that escapes at the start of a text write, and the text after them. -/
def readEscapedBytes? : List Char → Option (List UInt8 × List Char)
  | '%' :: a :: b :: rest => do
    let byte ← Json.hexNumber? [a, b]
    let (bytes, rest) ← readEscapedBytes? rest
    some (UInt8.ofNat byte :: bytes, rest)
  | '%' :: _ => none
  | text => some ([], text)

/-- The characters that bytes of UTF-8 write. -/
def decodeBytes? (bytes : List UInt8) : Option (List Char) :=
  (String.fromUTF8? ⟨bytes.toArray⟩).map String.toList

/-- An address, empty where none stands at the start of a text, and the text after it. -/
def readAddress? (apart : Bool) : (fuel : Nat) → List Char → Option (List Char × List Char)
  | 0, _ => none
  | fuel + 1, text =>
    match text with
    | [] => some ([], [])
    | c :: after =>
      if c = '%' then do
        let (bytes, rest) ← readEscapedBytes? text
        let cs ← decodeBytes? bytes
        let (tail, rest) ← readAddress? apart fuel rest
        some (cs ++ tail, rest)
      else if isAddressChar apart c then
        (readAddress? apart fuel after).map fun (tail, rest) => (c :: tail, rest)
      else some ([], text)

/-- An address that is not empty. -/
def readFullAddress? (apart : Bool) (text : List Char) : Option (List Char × List Char) :=
  (readAddress? apart (text.length + 1) text).filter fun (address, _) => !address.isEmpty

/-! ## Tags -/

/-- A tag that is written out between angle brackets; its handle is empty. -/
def readVerbatimTag? (text : List Char) : Option ((List Char × List Char) × List Char) := do
  let (suffix, rest) ← readFullAddress? true text
  match rest with
  | '>' :: rest => some (([], suffix), rest)
  | _ => none

/-- A tag without its end: handle and suffix.  A single exclamation mark is a suffix. -/
def readTagParts? (text : List Char) : Option ((List Char × List Char) × List Char) :=
  match text with
  | '!' :: '<' :: rest => readVerbatimTag? rest
  | _ => do
    let (handle, rest) ← readHandle? text
    if handle.length ≠ 1 && handle.getLast? = some '!' then
      let (suffix, rest) ← readFullAddress? false rest
      some ((handle, suffix), rest)
    else
      let (tail, rest) ← readAddress? false (rest.length + 1) rest
      match handle.drop 1 ++ tail with
      | [] => some (([], ['!']), rest)
      | suffix => some ((['!'], suffix), rest)

/-- A tag, which ends at a gap, or at a comma in a flow collection. -/
def readTag? (inFlow : Bool) (text : List Char) : Option ((List Char × List Char) × List Char) :=
  (readTagParts? text).filter fun (_, rest) => atGap rest || (inFlow && goesOn (· == ',') rest)

/-- The name of an anchor or an alias. -/
def readAnchorName? (text : List Char) : Option (List Char × List Char) :=
  let (name, rest) := readName text
  let ends := ['?', ':', ',', ']', '\x7d', '%', '@', '\x60']
  if !name.isEmpty && (atGap rest || goesOn ends.contains rest) then some (name, rest) else none

/-! ## Directives -/

/-- A directive. -/
inductive Directive where
  | version (major minor : Nat)
  | tag (handle lead : List Char)
  deriving DecidableEq, Repr

/-- A number of at most nine digits. -/
def readVersionNumber? (text : List Char) : Option (Nat × List Char) :=
  let digits := text.takeWhile Char.isDigit
  if digits.isEmpty || 9 < digits.length then none
  else some (Text.digitsValue digits, text.drop digits.length)

/-- The version that a directive gives. -/
def readVersion? (text : List Char) : Option (Directive × List Char) := do
  let (major, rest) ← readVersionNumber? (text.dropWhile isBlank)
  match rest with
  | '.' :: rest =>
    let (minor, rest) ← readVersionNumber? rest
    some (.version major minor, rest)
  | _ => none

/-- The handle of a directive and what it stands for. -/
def readTagDirective? (text : List Char) : Option (Directive × List Char) := do
  let (handle, rest) ← readHandle? (text.dropWhile isBlank)
  if (handle.length ≠ 1 && handle.getLast? ≠ some '!') || !goesOn isBlank rest then none
  else
    let (lead, rest) ← readFullAddress? true (rest.dropWhile isBlank)
    if atGap rest then some (.tag handle lead, rest) else none

/-- A directive, whose sign has been read, and the text after its line. -/
def readDirective? (text : List Char) : Option (Directive × List Char) := do
  let (name, rest) := readName text
  if !atGap rest then none
  else
    let (directive, rest) ←
      if name = "YAML".toList then readVersion? rest
      else if name = "TAG".toList then readTagDirective? rest
      else none
    let rest := rest.dropWhile isBlank
    let rest := if goesOn (· == '#') rest then rest.dropWhile fun c => !isBreak c else rest
    if atBreak rest then some (directive, rest.drop 1) else none

end Retention.Yaml
