import Sidecar.Yaml.Source

/-!
# Yaml/Token — the tokens of a YAML stream

Tokens are the indicators and scalars of the text, with the starts and ends of block collections,
which the text shows by indentation alone.
-/

namespace Sidecar.Yaml

/-- How a scalar is written. -/
inductive Style where
  | plain
  | singleQuoted
  | doubleQuoted
  | literal
  | folded
deriving DecidableEq, Repr

/-- What a token is. -/
inductive Token.Kind where
  | streamStart
  | streamEnd
  | versionDirective (major minor : Nat)
  | tagDirective (handle replacement : List Char)
  | documentStart
  | documentEnd
  | blockSequenceStart
  | blockMappingStart
  | blockEnd
  | flowSequenceStart
  | flowSequenceEnd
  | flowMappingStart
  | flowMappingEnd
  | blockEntry
  | flowEntry
  | key
  | value
  | alias (name : List Char)
  | anchor (name : List Char)
  | tag (handle rest : List Char)
  | scalar (text : List Char) (style : Style)
deriving DecidableEq, Repr

/-- A token and the places where it starts and stops. -/
structure Token where
  kind : Token.Kind
  start : Position
  stop : Position
deriving DecidableEq, Repr

end Sidecar.Yaml
