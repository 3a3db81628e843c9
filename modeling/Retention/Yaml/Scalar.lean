import Retention.Json.Reader
import Retention.Yaml.Text

/-!
# Scalars of YAML

The readers of scalars take the text from the scalar's first character and give what the scalar
stands for with the text after it.  A reader gives nothing where the scalar is malformed.

Lines of plain and quoted scalars are folded, see `foldGap`.  A literal block keeps its lines; in a
folded block a single break between two lines that do not begin with a blank is a space.
-/

namespace Retention.Yaml

/-! ## Gaps -/

/-- A gap between words: its blanks before the first break, its breaks, and the column at which it
ends. -/
structure Gap where
  blanks : List Char
  breaks : List Char
  column : Nat

namespace Gap

/-- What a gap stands for. -/
def folded (gap : Gap) : List Char := foldGap gap.blanks gap.breaks

/-- The gap at the start of a text that begins in `column`, and the text after it.  A tab in a later
line has to stand at the column `indent` or after it. -/
def read? (indent : Nat) (column : Nat) (text : List Char) : Option (Gap × List Char) :=
  go false column text
where
  /-- The gap after its first break, or still in its first line. -/
  go (broken : Bool) (column : Nat) (text : List Char) : Option (Gap × List Char) :=
    match text with
    | [] => some (⟨[], [], column⟩, [])
    | c :: rest =>
      if isBreak c then
        (go true 0 rest).map fun (gap, rest) => ({ gap with breaks := c :: gap.breaks }, rest)
      else if isBlank c then
        if broken && c == '\t' && column < indent then none
        else
          (go broken (column + 1) rest).map fun (gap, rest) =>
            (if broken then gap else { gap with blanks := c :: gap.blanks }, rest)
      else some (⟨[], [], column⟩, c :: rest)

end Gap

/-! ## Plain scalars -/

/-- The indicators that end a plain scalar in a flow collection. -/
def isFlowIndicator (c : Char) : Bool :=
  c == ',' || c == '[' || c == ']' || c == '\x7b' || c == '\x7d'

/-- The word at the start of a text inside a plain scalar.  In a flow collection a colon must not
stand right before an indicator. -/
def readWord? (inFlow : Bool) : List Char → Option (List Char × List Char)
  | [] => some ([], [])
  | c :: rest =>
    if isGap c then some ([], c :: rest)
    else if inFlow && c == ':' && goesOn (fun d => isFlowIndicator d || d == '?') rest then none
    else if (c == ':' && atGap rest) || (inFlow && isFlowIndicator c) then some ([], c :: rest)
    else (readWord? inFlow rest).map fun (word, rest) => (c :: word, rest)

/-- A scalar as it is read: its text, whether the gap after it holds a break, and the text after
that gap. -/
structure PlainScalar where
  text : List Char
  broken : Bool
  rest : List Char

/-- The words of a plain scalar from a place in a line, after what has been read.  `indent` is the
least column of its later lines. -/
def readPlain? (inFlow : Bool) (indent : Nat) :
    (fuel : Nat) → (column : Nat) → (lead : List Char) → (broken : Bool) → List Char →
    Option PlainScalar
  | 0, _, _, _, _ => none
  | fuel + 1, column, lead, broken, text =>
    if (column = 0 && atDocumentMark text) || goesOn (· == '#') text then some ⟨[], broken, text⟩
    else
      match readWord? inFlow text with
      | none => none
      | some ([], rest) => some ⟨[], broken, rest⟩
      | some (word, rest) =>
        if !goesOn isGap rest then some ⟨lead ++ word, false, rest⟩
        else
          match Gap.read? indent (column + word.length) rest with
          | none => none
          | some (gap, rest) =>
            let gapBroken := !gap.breaks.isEmpty
            if !inFlow && gap.column < indent then some ⟨lead ++ word, gapBroken, rest⟩
            else
              (readPlain? inFlow indent fuel gap.column gap.folded gapBroken rest).map fun tail =>
                { tail with text := lead ++ word ++ tail.text }

/-! ## Quoted scalars -/

/-- The character that a one-letter escape stands for. -/
def escaped? : Char → Option Char
  | '0' => some '\x00'
  | 'a' => some '\x07'
  | 'b' => some '\x08'
  | 't' => some '\t'
  | '\t' => some '\t'
  | 'n' => some '\n'
  | 'v' => some '\x0b'
  | 'f' => some '\x0c'
  | 'r' => some '\r'
  | 'e' => some '\x1b'
  | ' ' => some ' '
  | '"' => some '"'
  | '/' => some '/'
  | '\\' => some '\\'
  | 'N' => some '\u0085'
  | '_' => some '\u00a0'
  | 'L' => some '\u2028'
  | 'P' => some '\u2029'
  | _ => none

/-- The count of hexadecimal digits that follow the letter of an escape. -/
def escapeDigits? : Char → Option Nat
  | 'x' => some 2
  | 'u' => some 4
  | 'U' => some 8
  | _ => none

/-- The character with a code point written in hexadecimal digits. -/
def codePoint? (digits : List Char) : Option Char :=
  (Json.hexNumber? digits).bind fun n =>
    if n > 0x10FFFF ∨ (0xD800 ≤ n ∧ n ≤ 0xDFFF) then none else some (Char.ofNat n)

/-- How the part of a quoted scalar up to a gap, its closing quote or the end of the text ends. -/
structure QuotedWord where
  word : List Char
  /-- Whether the part ends with a break that is escaped. -/
  escapedBreak : Bool
  rest : List Char

/-- The part of a quoted scalar up to a gap, its closing quote or the end of the text. -/
def readQuotedWord? (double : Bool) : (fuel : Nat) → List Char → Option QuotedWord
  | 0, _ => none
  | fuel + 1, text =>
    let more := fun (c : Char) (rest : List Char) =>
      (readQuotedWord? double fuel rest).map fun tail => { tail with word := c :: tail.word }
    match text with
    | [] => some ⟨[], false, []⟩
    | c :: rest =>
      if isGap c then some ⟨[], false, c :: rest⟩
      else if double then
        if c = '"' then some ⟨[], false, c :: rest⟩
        else if c = '\\' then
          match rest with
          | [] => none
          | d :: rest =>
            if isBreak d then some ⟨[], true, rest⟩
            else
              match escapeDigits? d with
              | some count =>
                if rest.length < count then none
                else (codePoint? (rest.take count)).bind fun c => more c (rest.drop count)
              | none => (escaped? d).bind fun c => more c rest
        else more c rest
      else if c = '\'' then
        match rest with
        | '\'' :: rest => more '\'' rest
        | rest => some ⟨[], false, c :: rest⟩
      else more c rest

/-- The rest of a quoted scalar from a place in a line, and the text after its closing quote. -/
def readQuoted? (double : Bool) :
    (fuel : Nat) → (column : Nat) → List Char → Option (List Char × List Char)
  | 0, _, _ => none
  | fuel + 1, column, text =>
    if column = 0 && atDocumentMark text then none
    else
      match readQuotedWord? double (text.length + 1) text with
      | none => none
      | some part =>
        match part.rest with
        | [] => none
        | c :: rest =>
          if !part.escapedBreak && !isGap c then some (part.word, rest)
          else
            let width := text.length - (rest.length + 1)
            let column := if part.escapedBreak then 0 else column + width
            match Gap.read? 0 column (c :: rest) with
            | none => none
            | some (gap, rest) =>
              let between := if part.escapedBreak then gap.breaks else gap.folded
              (readQuoted? double fuel gap.column rest).map fun (tail, rest) =>
                (part.word ++ between ++ tail, rest)

/-! ## Block scalars -/

/-- What becomes of the breaks at the end of a block scalar. -/
inductive Chomping where
  | strip
  | clip
  | keep
  deriving DecidableEq, Repr

/-- The header of a block scalar: chomping and indentation, each at most once, in any order. -/
def readBlockHeader? (text : List Char) : Option ((Chomping × Nat) × List Char) :=
  let chomping? : Char → Option Chomping := fun
    | '+' => some .keep
    | '-' => some .strip
    | _ => none
  let indent? : Char → Option Nat := fun c => if c.isDigit then some (c.toNat - '0'.toNat) else none
  match text with
  | [] => some ((.clip, 0), [])
  | c :: rest =>
    match chomping? c, indent? c with
    | some chomping, _ =>
      match rest.head?.bind indent? with
      | some 0 => none
      | some indent => some ((chomping, indent), rest.tail)
      | none => some ((chomping, 0), rest)
    | none, some 0 => none
    | none, some indent =>
      match rest.head?.bind chomping? with
      | some chomping => some ((chomping, indent), rest.tail)
      | none => some ((.clip, indent), rest)
    | none, none => some ((.clip, 0), text)

/-- The breaks and indentation before a line of a block scalar that is not blank. -/
structure BlockGap where
  breaks : List Char
  /-- The column at which the line begins. -/
  column : Nat
  /-- The greatest column that the indentation of any of the lines reaches. -/
  widest : Nat
  rest : List Char

/-- The breaks and indentation at the start of a line.  Without a known `indent` all spaces count as
indentation, else at most `indent` of them; a tab must not stand among them. -/
def readBlockGap? (indent : Option Nat) : (fuel : Nat) → List Char → Option BlockGap
  | 0, _ => none
  | fuel + 1, text =>
    let spaces := (text.takeWhile (· == ' ')).length
    let column := match indent with
      | some indent => min spaces indent
      | none => spaces
    let rest := text.drop column
    let inIndent := match indent with
      | some indent => column < indent
      | none => true
    match rest with
    | [] => some ⟨[], column, column, []⟩
    | c :: after =>
      if inIndent && c == '\t' then none
      else if isBreak c then
        (readBlockGap? indent fuel after).map fun gap =>
          { gap with breaks := c :: gap.breaks, widest := max column gap.widest }
      else some ⟨[], column, column, rest⟩

/-- The lines of a block scalar from the start of one, with the break before it in `lead` and the
breaks of blank lines in `breaks`.  The last two parts of the answer are the break after the last
line and the breaks of blank lines after it. -/
def readBlockLines? (folded : Bool) (indent : Nat) :
    (fuel : Nat) → (lead breaks : List Char) → (leadBlank : Bool) → (column : Nat) → List Char →
    Option ((List Char × List Char × List Char) × List Char)
  | 0, _, _, _, _, _ => none
  | fuel + 1, lead, breaks, leadBlank, column, text =>
    if column = indent && !text.isEmpty then
      let blank := goesOn isBlank text
      let joint :=
        if folded && lead == ['\n'] && !leadBlank && !blank then
          if breaks.isEmpty then [' '] else breaks
        else lead ++ breaks
      let line := text.takeWhile fun c => !isBreak c
      let afterLine := text.dropWhile fun c => !isBreak c
      match readBlockGap? (some indent) (afterLine.length + 1) (afterLine.drop 1) with
      | none => none
      | some gap =>
        (readBlockLines? folded indent fuel (afterLine.take 1) gap.breaks blank gap.column
            gap.rest).map fun ((tail, ends), rest) => ((joint ++ line ++ tail, ends), rest)
    else some (([], lead, breaks), text)

/-- A block scalar whose indicator has been read.  `parent` is the indentation of the block around
it, -1 outside all blocks. -/
def readBlock? (folded : Bool) (parent : Int) (text : List Char) :
    Option (List Char × List Char) := do
  let ((chomping, increment), text) ← readBlockHeader? text
  let afterBlanks := text.dropWhile isBlank
  let text := if goesOn (· == '#') afterBlanks then afterBlanks.dropWhile fun c => !isBreak c
    else afterBlanks
  if !atBreak text then none
  else
    let text := text.drop 1
    let given := if increment = 0 then none else some ((max parent 0).toNat + increment)
    let gap ← readBlockGap? given (text.length + 1) text
    let indent := given.getD (max gap.widest (max (parent + 1) 1).toNat)
    let ((body, lead, breaks), rest) ←
      readBlockLines? folded indent (text.length + 1) [] gap.breaks false gap.column gap.rest
    let tail := match chomping with
      | .strip => []
      | .clip => lead
      | .keep => lead ++ breaks
    some (body ++ tail, rest)

end Retention.Yaml
