/-!
# Characters and lines of YAML

The classes of characters that the tokens of YAML are made of, the characters that a text may hold,
and the line breaks, of which all but two are one and the same.
-/

namespace Retention.Yaml

/-! ## Characters -/

/-- The characters that a YAML text may hold. -/
def isAllowed (c : Char) : Bool :=
  let n := c.toNat
  n == 0x09 || n == 0x0A || n == 0x0D || (0x20 ≤ n && n ≤ 0x7E) || n == 0x85 ||
    (0xA0 ≤ n && n ≤ 0xD7FF) || (0xE000 ≤ n && n ≤ 0xFFFD) || 0x10000 ≤ n

/-- The mark that may stand at the start of a line. -/
def byteOrderMark : Char := '\ufeff'

/-- Spaces and tabs. -/
def isBlank (c : Char) : Bool := c == ' ' || c == '\t'

/-- The breaks between lines, once all ways of writing a line feed are one. -/
def isBreak (c : Char) : Bool := c == '\n' || c == '\u2028' || c == '\u2029'

/-- Blanks and breaks. -/
def isGap (c : Char) : Bool := isBlank c || isBreak c

/-- The characters of anchors, of the names of directives and of tag handles. -/
def isWordChar (c : Char) : Bool := c.isAlphanum || c == '_' || c == '-'

/-- Whether a text is at its end or goes on with a blank or a break. -/
def atGap (text : List Char) : Bool :=
  match text with
  | [] => true
  | c :: _ => isGap c

/-- Whether a text is at its end or goes on with a break. -/
def atBreak (text : List Char) : Bool :=
  match text with
  | [] => true
  | c :: _ => isBreak c

/-- Whether a text goes on with a character of a class. -/
def goesOn (p : Char → Bool) (text : List Char) : Bool :=
  text.head?.any p

/-- Whether a text goes on with `---` or `...` as a mark between documents. -/
def atDocumentMark : List Char → Bool
  | '-' :: '-' :: '-' :: rest => atGap rest
  | '.' :: '.' :: '.' :: rest => atGap rest
  | _ => false

/-! ## Lines -/

/-- The text with a line feed for each carriage return, for both together, and for a next line. -/
def unifyBreaks : List Char → List Char
  | [] => []
  | '\r' :: '\n' :: rest => '\n' :: unifyBreaks rest
  | c :: rest => (if c = '\r' ∨ c = '\u0085' then '\n' else c) :: unifyBreaks rest

/-- What the gap between two words of a scalar stands for: the blanks of a gap in one line, a space
for a single break, the breaks after the first for more of them.  A first break that is no line feed
counts as well. -/
def foldGap (blanks breaks : List Char) : List Char :=
  match breaks with
  | [] => blanks
  | ['\n'] => [' ']
  | '\n' :: others => others
  | breaks => breaks

/-! ## Positions -/

/-- A place in a text: what is left of it, and line, column and index of its first character. -/
structure Cursor where
  rest : List Char
  line : Nat
  column : Nat
  index : Nat

namespace Cursor

/-- The start of a text. -/
def start (text : List Char) : Cursor := ⟨text, 0, 0, 0⟩

/-- The place after one character. -/
def next (c : Cursor) : Cursor :=
  match c.rest with
  | [] => c
  | d :: rest =>
    if isBreak d then ⟨rest, c.line + 1, 0, c.index + 1⟩
    else ⟨rest, c.line, c.column + 1, c.index + 1⟩

/-- The place after a count of characters. -/
def skip : (count : Nat) → Cursor → Cursor
  | 0, c => c
  | count + 1, c => skip count c.next

/-- The place at which `rest`, the end of a text, begins. -/
def moveTo (c : Cursor) (rest : List Char) : Cursor :=
  skip (c.rest.length - rest.length) c

end Cursor

end Retention.Yaml
