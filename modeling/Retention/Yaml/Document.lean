import Retention.Yaml.Lexer
import Retention.Yaml.Node

/-!
# From tokens to nodes

`Node.ofTokens?` reads the one document that tokens hold, and gives nothing where they hold none or
more than one or are in no order that YAML allows.

An anchor that is named becomes the count of names before it.  A name that is used again gets the
count of all names, which a later name may get as well; an alias stands for the last node with its
number.
-/

namespace Retention.Yaml

/-- The tokens that are left, and the names of anchors with the numbers they stand for. -/
structure Remaining where
  tokens : List Token
  anchors : List (String × Nat)

namespace Remaining

def next (r : Remaining) : Remaining := { r with tokens := r.tokens.drop 1 }

/-- Whether the first of the remaining tokens is one of some. -/
def startsWith (r : Remaining) (tokens : List Token) : Bool := r.tokens.head?.any tokens.contains

/-- What remains after a token that has to come first. -/
def after? (token : Token) (r : Remaining) : Option Remaining :=
  if r.tokens.head? = some token then some r.next else none

/-- Gives a name the number of a new anchor. -/
def define (name : String) (r : Remaining) : Nat × Remaining :=
  let anchor := r.anchors.length
  (anchor, { r with anchors := (name, anchor) :: r.anchors.filter fun entry => entry.1 ≠ name })

end Remaining

/-! ## Tags and anchors -/

/-- What the handles of tags stand for. -/
abbrev Handles := List (String × String)

/-- The tag that handle and suffix write. -/
def resolveTag? (handles : Handles) (handle suffix : String) : Option String :=
  if handle.isEmpty then some suffix
  else (handles.lookup handle).map (· ++ suffix)

/-- What may stand before a node: an anchor and a tag. -/
structure Properties where
  anchor : Option Nat
  tag : Option String

/-- Reads the tag at the start of the remaining tokens, where there is one. -/
def readNodeTag? (handles : Handles) (r : Remaining) : Option (Option String × Remaining) :=
  match r.tokens with
  | .tag handle suffix :: _ => (resolveTag? handles handle suffix).map fun tag => (some tag, r.next)
  | _ => some (none, r)

/-- Reads the anchor at the start of the remaining tokens, where there is one. -/
def readNodeAnchor (r : Remaining) : Option String × Remaining :=
  match r.tokens with
  | .anchor name :: _ => (some name, r.next)
  | _ => (none, r)

/-- Reads anchor and tag in either order. -/
def readProperties? (handles : Handles) (r : Remaining) : Option (Properties × Remaining) := do
  let (before, r) := readNodeAnchor r
  let (tag, r) ← readNodeTag? handles r
  let (after, r) := if before.isNone && tag.isSome then readNodeAnchor r else (none, r)
  match before.or after with
  | some name =>
    let (anchor, r) := r.define name
    some (⟨some anchor, tag⟩, r)
  | none => some (⟨none, tag⟩, r)

/-- The scalar with some properties.  The tag that is a single mark says nothing about a scalar. -/
def scalarNode (p : Properties) (style : Style) (text : String) : Node :=
  .scalar p.anchor (p.tag.filter (· ≠ "!")) style text

/-! ## Nodes -/

inductive Position where
  /-- In a flow collection. -/
  | flow
  /-- In a block sequence, or alone in a document. -/
  | block
  /-- In a block mapping, where a sequence need not be indented. -/
  | entry
  deriving DecidableEq

mutual

/-- Reads a node. -/
def readNode? (handles : Handles) (position : Position) :
    (fuel : Nat) → Remaining → Option (Node × Remaining)
  | 0, _ => none
  | fuel + 1, r =>
    match r.tokens with
    | .aliasTo name :: _ => (r.anchors.lookup name).map fun anchor => (.aliasTo anchor, r.next)
    | _ => do
      let (p, r) ← readProperties? handles r
      match r.tokens with
      | .scalar style text :: _ => some (scalarNode p style text, r.next)
      | .flowSequenceStart :: _ =>
        let (items, r) ← readFlowItems? handles true fuel r.next
        some (.sequence p.anchor p.tag items, r)
      | .flowMappingStart :: _ =>
        let (entries, r) ← readFlowEntries? handles true fuel r.next
        some (.mapping p.anchor p.tag entries, r)
      | token :: _ =>
        if token = .blockEntry && position = .entry then
          let (items, r) ← readLooseItems? handles fuel r
          some (.sequence p.anchor p.tag items, r)
        else if token = .blockSequenceStart && position ≠ .flow then
          let (items, r) ← readBlockItems? handles fuel r.next
          some (.sequence p.anchor p.tag items, r)
        else if token = .blockMappingStart && position ≠ .flow then
          let (entries, r) ← readBlockEntries? handles fuel r.next
          some (.mapping p.anchor p.tag entries, r)
        else readNothing? p r
      | [] => readNothing? p r

/-- Takes properties without a node for an empty scalar. -/
def readNothing? (p : Properties) (r : Remaining) : Option (Node × Remaining) :=
  if p.anchor.isSome || p.tag.isSome then some (.scalar p.anchor p.tag .plain "", r) else none

/-- Reads a node, or finds it left out where one of some tokens follows. -/
def readNodeBefore? (handles : Handles) (position : Position) (ends : List Token) :
    (fuel : Nat) → Remaining → Option (Node × Remaining)
  | 0, _ => none
  | fuel + 1, r =>
    if r.startsWith ends then some (.blank, r) else readNode? handles position fuel r

/-- Reads the items of a block sequence and its end. -/
def readBlockItems? (handles : Handles) : (fuel : Nat) → Remaining → Option (List Node × Remaining)
  | 0, _ => none
  | fuel + 1, r =>
    if r.startsWith [.blockEntry] then do
      let (item, r) ←
        readNodeBefore? handles .block [.blockEntry, .blockEnd] fuel r.next
      let (items, r) ← readBlockItems? handles fuel r
      some (item :: items, r)
    else (r.after? .blockEnd).map fun r => ([], r)

/-- Reads the items of a sequence that is not indented. -/
def readLooseItems? (handles : Handles) : (fuel : Nat) → Remaining → Option (List Node × Remaining)
  | 0, _ => none
  | fuel + 1, r =>
    if r.startsWith [.blockEntry] then do
      let (item, r) ←
        readNodeBefore? handles .block [.blockEntry, .key, .value, .blockEnd] fuel r.next
      let (items, r) ← readLooseItems? handles fuel r
      some (item :: items, r)
    else some ([], r)

/-- Reads the entries of a block mapping and its end. -/
def readBlockEntries? (handles : Handles) :
    (fuel : Nat) → Remaining → Option (List (Node × Node) × Remaining)
  | 0, _ => none
  | fuel + 1, r =>
    if r.startsWith [.key] then do
      let ends : List Token := [.key, .value, .blockEnd]
      let (key, r) ← readNodeBefore? handles .entry ends fuel r.next
      let (value, r) ←
        if r.startsWith [.value] then readNodeBefore? handles .entry ends fuel r.next
        else some (.blank, r)
      let (entries, r) ← readBlockEntries? handles fuel r
      some ((key, value) :: entries, r)
    else (r.after? .blockEnd).map fun r => ([], r)

/-- Reads the items of a flow sequence and its end. -/
def readFlowItems? (handles : Handles) (first : Bool) :
    (fuel : Nat) → Remaining → Option (List Node × Remaining)
  | 0, _ => none
  | fuel + 1, r =>
    if r.startsWith [.flowSequenceEnd] then some ([], r.next)
    else do
      let r ← if first then some r else r.after? .flowEntry
      if r.startsWith [.flowSequenceEnd] then some ([], r.next)
      else
        let (item, r) ←
          if r.startsWith [.key] then readPair? handles fuel r.next
          else readNode? handles .flow fuel r
        let (items, r) ← readFlowItems? handles false fuel r
        some (item :: items, r)

/-- Reads a mapping with a single entry that stands in a flow sequence without braces.  Where the
key is left out, the token after its mark does not count. -/
def readPair? (handles : Handles) : (fuel : Nat) → Remaining → Option (Node × Remaining)
  | 0, _ => none
  | fuel + 1, r => do
    let (key, r) ←
      if r.startsWith [.value, .flowEntry, .flowSequenceEnd] then some (.blank, r.next)
      else readNode? handles .flow fuel r
    let (value, r) ←
      if r.startsWith [.value] then
        readNodeBefore? handles .flow [.flowEntry, .flowSequenceEnd] fuel r.next
      else some (.blank, r)
    some (.mapping none none [(key, value)], r)

/-- Reads the entries of a flow mapping and its end. -/
def readFlowEntries? (handles : Handles) (first : Bool) :
    (fuel : Nat) → Remaining → Option (List (Node × Node) × Remaining)
  | 0, _ => none
  | fuel + 1, r =>
    if r.startsWith [.flowMappingEnd] then some ([], r.next)
    else do
      let r ← if first then some r else r.after? .flowEntry
      if r.startsWith [.flowMappingEnd] then some ([], r.next)
      else
        let (entry, r) ←
          if r.startsWith [.key] then readFlowEntry? handles fuel r.next
          else (readNode? handles .flow fuel r).map fun (key, r) => ((key, .blank), r)
        let (entries, r) ← readFlowEntries? handles false fuel r
        some (entry :: entries, r)

/-- Reads an entry of a flow mapping after the mark of its key. -/
def readFlowEntry? (handles : Handles) :
    (fuel : Nat) → Remaining → Option ((Node × Node) × Remaining)
  | 0, _ => none
  | fuel + 1, r => do
    let (key, r) ←
      readNodeBefore? handles .flow [.value, .flowEntry, .flowMappingEnd] fuel r
    let (value, r) ←
      if r.startsWith [.value] then
        readNodeBefore? handles .flow [.flowEntry, .flowMappingEnd] fuel r.next
      else some (.blank, r)
    some ((key, value), r)

end

/-! ## Documents -/

/-- What the directives before a document say. -/
structure Directives where
  version : Option (Nat × Nat)
  handles : Handles

/-- The handles that need no directive. -/
def standardHandles : Handles := [("!", "!"), ("!!", "tag:yaml.org,2002:")]

/-- Reads directives after those in `seen`: the version at most once, and each handle at most
once. -/
def readDirectives? (seen : Directives) : List Token → Option (Directives × List Token)
  | .versionDirective major minor :: rest =>
    if seen.version.isNone && major = 1 && (minor = 1 || minor = 2) then
      readDirectives? { seen with version := some (major, minor) } rest
    else none
  | .tagDirective handle lead :: rest =>
    if (seen.handles.lookup handle).isNone then
      readDirectives? { seen with handles := (handle, lead) :: seen.handles } rest
    else none
  | tokens => some (seen, tokens)

/-- Reads the node of a document after the mark of its start. -/
def readContent? (handles : Handles) (tokens : List Token) : Option (Node × Remaining) :=
  let isOutside : Token → Bool := fun
    | .versionDirective _ _ | .tagDirective _ _ | .documentStart | .documentEnd => true
    | _ => false
  let r : Remaining := ⟨tokens, []⟩
  if tokens.head?.all isOutside then some (.blank, r)
  else readNode? handles .block (4 * tokens.length + 4) r

/-- Reads the first document: with directives and a mark of its start, or with neither. -/
def readDocument? (tokens : List Token) : Option (Node × Remaining) := do
  if tokens.isEmpty then none
  else
    let (directives, rest) ← readDirectives? ⟨none, []⟩ tokens
    let handles := directives.handles ++ standardHandles
    match rest with
    | .documentStart :: rest => readContent? handles rest
    | _ =>
      if rest.length = tokens.length then
        readNode? handles .block (4 * tokens.length + 4) ⟨tokens, []⟩
      else none

/-- The node of the one document that tokens hold. -/
def Node.ofTokens? (tokens : List Token) : Option Node :=
  (readDocument? tokens).bind fun (node, r) =>
    if r.tokens.all (· == .documentEnd) then some node else none

/-- The node of the one document that a text holds. -/
def Node.ofText? (text : String) : Option Node :=
  (Token.ofText? text).bind Node.ofTokens?

end Retention.Yaml
