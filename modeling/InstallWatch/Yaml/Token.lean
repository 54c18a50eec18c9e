/-!
Tokens of a YAML text. Indentation and the places of simple keys are tokens too.
-/

namespace InstallWatch.Yaml

/-- A tag as it is written: perhaps a handle, and the text behind it. -/
structure TagText where
  handle : Option String
  rest : String
deriving DecidableEq, Repr

inductive Directive where
  | version (major : Nat)
  | tag (handle leader : String)
  | other
deriving DecidableEq, Repr

inductive Token where
  | directive (d : Directive)
  | documentStart
  | documentEnd
  | streamEnd
  | blockSequenceStart
  | blockMappingStart
  | blockEnd
  | flowSequenceStart
  | flowSequenceEnd
  | flowMappingStart
  | flowMappingEnd
  | blockEntry
  | flowEntry
  | key
  | value
  | alias (name : String)
  | anchor (name : String)
  | tag (t : TagText)
  | scalar (text : String) (plain : Bool)
deriving DecidableEq, Repr

end InstallWatch.Yaml
