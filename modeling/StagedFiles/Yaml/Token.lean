-- The tokens of a document. Blocks that the text shows by indentation alone
-- have a token where they start and one where they end.
import StagedFiles.Bytes

namespace StagedFiles.Yaml

/-- The bytes of a tag. Escapes may spell bytes that are no text. -/
abbrev Tag := Bytes

/-- How a scalar is written. -/
inductive Style where
  | plain
  | quoted
  /-- Under a bar, line by line. -/
  | literal
  /-- Under an angle, with lines folded. -/
  | folded
  deriving DecidableEq, Repr

inductive Token where
  | documentStart
  | documentEnd
  | version (major minor : Nat)
  | tagHandle (handle : String) (expansion : Tag)
  | blockSequence
  | blockMapping
  | blockEnd
  | flowSequence
  | flowSequenceEnd
  | flowMapping
  | flowMappingEnd
  | entry
  | comma
  | key
  | value
  | alias (name : String)
  | anchor (name : String)
  | tag (handle : String) (suffix : Tag)
  | scalar (text : String) (style : Style)
  deriving DecidableEq, Repr

end StagedFiles.Yaml
