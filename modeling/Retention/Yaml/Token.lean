/-!
# Tokens of YAML

The tokens that a YAML text falls into.  Indentation shows in them: a block of entries begins with
`blockSequenceStart` or `blockMappingStart` and ends with `blockEnd`, and a `key` stands before
every key of a mapping, also where the text does not mark it.  The end of the list of tokens is the end of
the text.
-/

namespace Retention.Yaml

/-- How a scalar is written. -/
inductive Style where
  | plain
  | singleQuoted
  | doubleQuoted
  | literal
  | folded
  deriving DecidableEq, Repr

/-- The tokens of YAML. -/
inductive Token where
  | versionDirective (major minor : Nat)
  | tagDirective (handle lead : String)
  | documentStart
  | documentEnd
  | blockSequenceStart
  | blockMappingStart
  | blockEnd
  | flowSequenceStart
  | flowSequenceEnd
  | flowMappingStart
  | flowMappingEnd
  | blockEntry
  | flowEntry
  | key
  | value
  | anchor (name : String)
  | aliasTo (name : String)
  | tag (handle suffix : String)
  | scalar (style : Style) (text : String)
  deriving DecidableEq, Repr

end Retention.Yaml
