import Retention.Yaml.Scalar
import Retention.Yaml.Tag
import Retention.Yaml.Token

/-!
# From text to tokens

`Token.ofText?` reads the tokens of a whole text, and gives nothing where the text is malformed.

Two things make tokens depend on what stands before them.  In block collections the columns do: a
deeper column begins a collection, a lesser one ends those that are deeper.  And a key need not be
marked as one: it shows only at the colon after it.  So the lexer keeps, for each flow collection it
is in, the place where such a key may have begun, and puts the token of the key there once the colon
comes.  A key without a mark has to stand in one line and within 1024 characters.
-/

namespace Retention.Yaml

/-- A place where a key without a mark may have begun. -/
structure KeyPlace where
  /-- Whether there has to be a key, since a mapping goes on in this column. -/
  required : Bool
  /-- The count of tokens before it. -/
  token : Nat
  line : Nat
  column : Nat
  index : Nat

/-- What has been read of a text. -/
structure Lexer where
  cursor : Cursor
  /-- The column of the innermost block collection, -1 outside all. -/
  indent : Int
  /-- The columns of the block collections around it. -/
  outerIndents : List Int
  /-- Whether a key without a mark may begin here. -/
  keyAllowed : Bool
  /-- The place where a key may have begun, outside all flow collections. -/
  blockKey : Option KeyPlace
  /-- The same for the flow collections around the place, the innermost first. -/
  flowKeys : List (Option KeyPlace)
  /-- The tokens so far, the latest first. -/
  latestTokens : List Token

namespace Lexer

/-- The start of a text. -/
def start (text : List Char) : Lexer where
  cursor := .start text
  indent := -1
  outerIndents := []
  keyAllowed := true
  blockKey := none
  flowKeys := []
  latestTokens := []

def inFlow (l : Lexer) : Bool := !l.flowKeys.isEmpty

def add (token : Token) (l : Lexer) : Lexer :=
  { l with latestTokens := token :: l.latestTokens }

/-- Puts a token behind the first `count` ones. -/
def insert (count : Nat) (token : Token) (l : Lexer) : Lexer :=
  let later := l.latestTokens.length - count
  { l with
    latestTokens := l.latestTokens.take later ++ token :: l.latestTokens.drop later }

/-- Goes on by some characters. -/
def skip (count : Nat) (l : Lexer) : Lexer :=
  { l with cursor := l.cursor.skip count }

/-- Goes on to the end of the text that `rest` is. -/
def moveTo (rest : List Char) (l : Lexer) : Lexer :=
  { l with cursor := l.cursor.moveTo rest }

/-- Says whether a key without a mark may begin next. -/
def allowKey (allowed : Bool) (l : Lexer) : Lexer :=
  { l with keyAllowed := allowed }

/-! ## Indentation -/

/-- Begins a block collection if the column is deeper than the current ones.  Its token is put
behind the first `count` tokens. -/
def rollIndent (column : Nat) (count : Nat) (token : Token) (l : Lexer) : Lexer :=
  if !l.inFlow && l.indent < column then
    { l with indent := column, outerIndents := l.indent :: l.outerIndents }.insert count token
  else l

/-- The columns that are left, and the count of those that end, where a column comes that is not
deeper than them. -/
def endIndents (column : Int) : Int → List Int → Nat × Int × List Int
  | indent, [] => (0, indent, [])
  | indent, outer :: rest =>
    if column < indent then
      let (ended, indent, rest) := endIndents column outer rest
      (ended + 1, indent, rest)
    else (0, indent, outer :: rest)

/-- Ends the block collections that are deeper than a column. -/
def unrollIndent (column : Int) (l : Lexer) : Lexer :=
  if l.inFlow then l
  else
    let (ended, indent, rest) := endIndents column l.indent l.outerIndents
    { l with
      indent := indent
      outerIndents := rest
      latestTokens := List.replicate ended .blockEnd ++ l.latestTokens }

/-! ## Keys without a mark -/

/-- The place where a key may have begun in the innermost collection. -/
def key (l : Lexer) : Option KeyPlace :=
  match l.flowKeys with
  | [] => l.blockKey
  | key :: _ => key

/-- Changes the place where a key may have begun in the innermost collection. -/
def setKey (key : Option KeyPlace) (l : Lexer) : Lexer :=
  match l.flowKeys with
  | [] => { l with blockKey := key }
  | _ :: rest => { l with flowKeys := key :: rest }

/-- Finds that no key has begun in the innermost collection. -/
def dropKey? (l : Lexer) : Option Lexer :=
  if l.key.any (·.required) then none else some (l.setKey none)

/-- Remembers the place as one where a key may begin, if it may. -/
def saveKey? (l : Lexer) : Option Lexer :=
  if l.keyAllowed then do
    let place : KeyPlace := {
      required := !l.inFlow && l.indent = l.cursor.column
      token := l.latestTokens.length
      line := l.cursor.line
      column := l.cursor.column
      index := l.cursor.index }
    some ((← l.dropKey?).setKey (some place))
  else some l

/-- Whether a key that began at a place has grown too long. -/
def isStale (cursor : Cursor) (key : KeyPlace) : Bool :=
  key.line < cursor.line || key.index + 1024 < cursor.index

/-- A place without the key that has grown too long; none where it was required. -/
def freshKey? (cursor : Cursor) : Option KeyPlace → Option (Option KeyPlace)
  | some key =>
    if isStale cursor key then (if key.required then none else some none) else some (some key)
  | none => some none

/-- Drops the keys that have grown too long. -/
def dropStaleKeys? (l : Lexer) : Option Lexer := do
  some { l with
    blockKey := ← freshKey? l.cursor l.blockKey
    flowKeys := ← l.flowKeys.mapM (freshKey? l.cursor) }

/-! ## Gaps between tokens -/

/-- Goes on to the next token.  Tabs do not count as gaps where they could be taken for the
indentation of a key. -/
def skipGap : (fuel : Nat) → Lexer → Lexer
  | 0, l => l
  | fuel + 1, l =>
    let marked := l.cursor.column = 0 && goesOn (· == byteOrderMark) l.cursor.rest
    let l := if marked then l.skip 1 else l
    let tabs := l.inFlow || !l.keyAllowed
    let blank := fun (c : Char) => c == ' ' || (tabs && c == '\t')
    let afterBlanks := l.cursor.rest.dropWhile blank
    let afterComment :=
      if goesOn (· == '#') afterBlanks then afterBlanks.dropWhile fun c => !isBreak c
      else afterBlanks
    let l := l.moveTo afterComment
    if goesOn isBreak afterComment then
      skipGap fuel ((l.skip 1).allowKey (l.keyAllowed || !l.inFlow))
    else l

/-! ## Tokens -/

/-- Reads the end of the text. -/
def readEnd? (l : Lexer) : Option Lexer :=
  (l.unrollIndent (-1)).dropKey?

/-- Reads a directive. -/
def readDirective? (l : Lexer) : Option Lexer := do
  let l ← (l.unrollIndent (-1)).dropKey?
  let (directive, rest) ← Yaml.readDirective? (l.cursor.rest.drop 1)
  let token := match directive with
    | .version major minor => Token.versionDirective major minor
    | .tag handle lead => Token.tagDirective (String.ofList handle) (String.ofList lead)
  some (((l.moveTo rest).allowKey false).add token)

/-- Reads a mark between documents. -/
def readDocumentMark? (token : Token) (l : Lexer) : Option Lexer := do
  let l ← (l.unrollIndent (-1)).dropKey?
  some (((l.skip 3).allowKey false).add token)

/-- Reads the start of a flow collection. -/
def readFlowStart? (token : Token) (l : Lexer) : Option Lexer := do
  let l ← l.saveKey?
  some ((({ l with flowKeys := none :: l.flowKeys }.allowKey true).skip 1).add token)

/-- Reads the end of a flow collection. -/
def readFlowEnd? (token : Token) (l : Lexer) : Option Lexer := do
  let l ← l.dropKey?
  some ((({ l with flowKeys := l.flowKeys.drop 1 }.allowKey false).skip 1).add token)

/-- Reads the comma between entries of a flow collection. -/
def readFlowEntry? (l : Lexer) : Option Lexer := do
  some ((((← l.dropKey?).allowKey true).skip 1).add .flowEntry)

/-- Begins a block collection at the place, where one may begin. -/
def beginBlock? (token : Token) (l : Lexer) : Option Lexer :=
  if l.inFlow then some l
  else if l.keyAllowed then some (l.rollIndent l.cursor.column l.latestTokens.length token)
  else none

/-- Reads the mark of an entry of a block sequence. -/
def readBlockEntry? (l : Lexer) : Option Lexer := do
  let l ← (← l.beginBlock? .blockSequenceStart).dropKey?
  some (((l.allowKey true).skip 1).add .blockEntry)

/-- Reads the mark of a key. -/
def readKey? (l : Lexer) : Option Lexer := do
  let l ← (← l.beginBlock? .blockMappingStart).dropKey?
  some (((l.allowKey !l.inFlow).skip 1).add .key)

/-- Reads the colon before a value. -/
def readValue? (l : Lexer) : Option Lexer := do
  let l ← match l.key with
    | some key =>
      let l := l.insert key.token .key
      let l := l.rollIndent key.column key.token .blockMappingStart
      some ((l.setKey none).allowKey false)
    | none => do
      let l ← l.beginBlock? .blockMappingStart
      some (l.allowKey !l.inFlow)
  some ((l.skip 1).add .value)

/-- Reads an anchor or an alias. -/
def readAnchor? (token : String → Token) (l : Lexer) : Option Lexer := do
  let l := (← l.saveKey?).allowKey false
  let (name, rest) ← readAnchorName? (l.cursor.rest.drop 1)
  some ((l.moveTo rest).add (token (String.ofList name)))

/-- Reads a tag. -/
def readTag? (l : Lexer) : Option Lexer := do
  let l := (← l.saveKey?).allowKey false
  let ((handle, suffix), rest) ← Yaml.readTag? l.inFlow l.cursor.rest
  some ((l.moveTo rest).add (.tag (String.ofList handle) (String.ofList suffix)))

/-- Reads a block scalar. -/
def readBlockScalar? (style : Style) (l : Lexer) : Option Lexer := do
  let l := (← l.dropKey?).allowKey true
  let (text, rest) ← readBlock? (style == .folded) l.indent (l.cursor.rest.drop 1)
  some ((l.moveTo rest).add (.scalar style (String.ofList text)))

/-- Reads a quoted scalar. -/
def readQuotedScalar? (style : Style) (l : Lexer) : Option Lexer := do
  let l := (← l.saveKey?).allowKey false
  let text := l.cursor.rest.drop 1
  let (text, rest) ←
    readQuoted? (style == .doubleQuoted) (text.length + 1) (l.cursor.column + 1) text
  some ((l.moveTo rest).add (.scalar style (String.ofList text)))

/-- Reads a plain scalar. -/
def readPlainScalar? (l : Lexer) : Option Lexer := do
  let l ← l.saveKey?
  let text := l.cursor.rest
  let scalar ←
    readPlain? l.inFlow (l.indent + 1).toNat (text.length + 1) l.cursor.column [] false text
  some (((l.moveTo scalar.rest).allowKey scalar.broken).add
    (.scalar .plain (String.ofList scalar.text)))

/-- The characters with which a plain scalar does not begin. -/
def indicators : List Char :=
  ['-', '?', ':', ',', '[', ']', '\x7b', '\x7d', '#', '&', '*', '!', '|', '>', '\'', '"', '%', '@',
    '\x60']

/-- Whether a plain scalar begins with a character before `rest`. -/
def beginsPlain (inFlow : Bool) (c : Char) (rest : List Char) : Bool :=
  !(isGap c || indicators.contains c) || (c == '-' && !goesOn isBlank rest) ||
    (!inFlow && (c == '?' || c == ':') && !atGap rest)

/-- Reads the token that begins with a character before `rest`. -/
def readToken? (c : Char) (rest : List Char) (l : Lexer) : Option Lexer :=
  if l.cursor.column = 0 && c == '%' then l.readDirective?
  else if l.cursor.column = 0 && atDocumentMark (c :: rest) then
    l.readDocumentMark? (if c == '-' then .documentStart else .documentEnd)
  else
    match c with
    | '[' => l.readFlowStart? .flowSequenceStart
    | '\x7b' => l.readFlowStart? .flowMappingStart
    | ']' => l.readFlowEnd? .flowSequenceEnd
    | '\x7d' => l.readFlowEnd? .flowMappingEnd
    | ',' => l.readFlowEntry?
    | '&' => l.readAnchor? .anchor
    | '*' => l.readAnchor? .aliasTo
    | '!' => l.readTag?
    | '\'' => l.readQuotedScalar? .singleQuoted
    | '"' => l.readQuotedScalar? .doubleQuoted
    | c =>
      if c == '-' && atGap rest then l.readBlockEntry?
      else if c == '?' && (l.inFlow || atGap rest) then l.readKey?
      else if c == ':' && (l.inFlow || atGap rest) then l.readValue?
      else if c == '|' && !l.inFlow then l.readBlockScalar? .literal
      else if c == '>' && !l.inFlow then l.readBlockScalar? .folded
      else if beginsPlain l.inFlow c rest then l.readPlainScalar?
      else none

/-- Reads all tokens to the end of the text. -/
def readAll? : (fuel : Nat) → Lexer → Option Lexer
  | 0, _ => none
  | fuel + 1, l => do
    let l ← (l.skipGap (l.cursor.rest.length + 1)).dropStaleKeys?
    let l := l.unrollIndent l.cursor.column
    match l.cursor.rest with
    | [] => l.readEnd?
    | c :: rest => do readAll? fuel (← l.readToken? c rest)

end Lexer

/-- The tokens of a text. -/
def Token.ofText? (text : String) : Option (List Token) :=
  if text.toList.all isAllowed then
    let cs := unifyBreaks text.toList
    (Lexer.readAll? (cs.length + 2) (.start cs)).map fun l => l.latestTokens.reverse
  else none

end Retention.Yaml
