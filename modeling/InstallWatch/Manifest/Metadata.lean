import InstallWatch.Schema.Record

/-!
The metadata every manifest has: a name, perhaps a namespace, and labels.
-/

namespace InstallWatch

structure Metadata where
  name : String
  space : Option String
  labels : List (String × String)
deriving DecidableEq

namespace Metadata
open InstallWatch.Schema

def empty : Metadata := ⟨"", none, []⟩

def title : String := "ObjectMeta"

def check : Data → Checked Metadata :=
  record title fun es =>
    Metadata.mk <$> field es ["name"] empty.name text
      <*> field es ["namespace"] empty.space (optional text)
      <*> field es ["labels"] empty.labels table

def write (m : Metadata) : Data :=
  written [("name", .text m.name), ("namespace", writtenOption .text m.space),
    ("labels", writtenTable m.labels)] []

end InstallWatch.Metadata
