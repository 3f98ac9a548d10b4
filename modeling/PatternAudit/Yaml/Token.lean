/-! The tokens of a YAML text. Indentation shows as tokens of its own, which open and close block
collections.
-/

namespace PatternAudit.Yaml

/-- A token of a YAML text. -/
inductive Token where
  /-- A directive that gives the version, which is one that is understood or not. -/
  | version (understood : Bool)
  /-- A directive that declares a handle for tags. -/
  | declaration (handle : String)
  | documentStart
  | documentEnd
  | blockSequenceStart
  | blockMappingStart
  | blockEnd
  | flowSequenceStart
  | flowSequenceEnd
  | flowMappingStart
  | flowMappingEnd
  | blockEntry
  | flowEntry
  | key
  | value
  | alias (name : String)
  | anchor (name : String)
  /-- A tag, with the handle that has to be declared for it, if there is one. -/
  | tag (handle : Option String)
  /-- A scalar; plain ones are those without quotes and not in a block of their own. -/
  | scalar (text : String) (plain : Bool)
  deriving DecidableEq, Repr

end PatternAudit.Yaml
