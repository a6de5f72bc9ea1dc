import FieldOrder.Yaml.Place

namespace FieldOrder.Yaml

/-- The indicators and scalars of a text, with tokens of their own for the starts and ends of
blocks, which the text shows by indentation alone. -/
inductive Token where
  /-- The version that a text claims to be written in. -/
  | versionDirective (major : Nat)
  | tagDirective (handle start : String)
  | otherDirective
  | documentStart
  | documentEnd
  | blockSequenceStart
  | blockMappingStart
  | blockEnd
  | sequenceStart
  | sequenceEnd
  | mappingStart
  | mappingEnd
  | blockEntry
  | flowEntry
  | key
  | value
  | anchor (name : String)
  | alias (name : String)
  /-- A tag without a handle is complete as it is. -/
  | tag (handle : Option String) (suffix : String)
  | scalar (text : String) (plain : Bool)
  deriving Repr, DecidableEq

end FieldOrder.Yaml
