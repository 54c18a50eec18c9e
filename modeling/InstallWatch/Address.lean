import InstallWatch.Address.V6

/-!
IP addresses of both families: reading any spelling, writing the canonical one.
-/

namespace InstallWatch

inductive Address where
  | v4 (x : Address.V4)
  | v6 (x : Address.V6)
deriving DecidableEq

namespace Address

def parse? (s : String) : Option Address :=
  match V4.parse? s.toList with
  | some x => some (.v4 x)
  | none => (V6.parse? s.toList).map .v6

/-- The canonical text. -/
def text : Address → String
  | .v4 x => String.ofList x.text
  | .v6 x => String.ofList x.text

/-- The address written in a text, blanks around it ignored. -/
def parseTrimmed? (s : String) : Option Address := parse? (Text.trimmed Text.isBlank s)

end InstallWatch.Address
