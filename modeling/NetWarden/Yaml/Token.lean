/-!
# Tokens of a YAML text

The indicators, names and scalars that a text is made of. The blocks that the layout opens and
closes are tokens as well, so a row of tokens no longer knows of columns and lines.
-/

namespace NetWarden.Yaml

/-- How a scalar is written. -/
inductive Style where
  /-- Bare, without quotes. -/
  | plain
  /-- In single quotes. -/
  | singleQuoted
  /-- In double quotes. -/
  | doubleQuoted
  /-- As a block whose line ends are kept. -/
  | literal
  /-- As a block whose lines are joined. -/
  | folded
deriving DecidableEq, Repr

/-- A tag as written: the handle that stands for the beginning of the tag, and the rest. -/
structure WrittenTag where
  /-- The handle; empty if the rest is the whole tag. -/
  handle : String
  /-- What follows the handle. -/
  suffix : String
deriving DecidableEq, Repr

/-- A token. -/
inductive Token where
  /-- The line that states the version of the format. -/
  | version (major minor : Nat)
  /-- The line that says what a handle stands for. -/
  | handle (name standsFor : String)
  /-- The mark `---`. -/
  | documentStart
  /-- The mark `...`. -/
  | documentEnd
  /-- The layout begins a list. -/
  | blockSequenceStart
  /-- The layout begins a mapping. -/
  | blockMappingStart
  /-- The layout ends a list or a mapping. -/
  | blockEnd
  /-- An opening bracket. -/
  | flowSequenceStart
  /-- A closing bracket. -/
  | flowSequenceEnd
  /-- An opening brace. -/
  | flowMappingStart
  /-- A closing brace. -/
  | flowMappingEnd
  /-- The hyphen before an item. -/
  | blockEntry
  /-- The comma between items. -/
  | flowEntry
  /-- What follows is a key. -/
  | key
  /-- What follows is the value of the key before. -/
  | value
  /-- A node that stands for the one with this name. -/
  | alias (name : String)
  /-- The name of the node that follows. -/
  | anchor (name : String)
  /-- The tag of the node that follows. -/
  | tag (t : WrittenTag)
  /-- A scalar. -/
  | scalar (text : String) (style : Style)
  /-- The end of the text. -/
  | streamEnd
deriving DecidableEq, Repr, Inhabited

end NetWarden.Yaml
