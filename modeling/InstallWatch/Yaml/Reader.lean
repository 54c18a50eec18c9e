import InstallWatch.Yaml.Building
import InstallWatch.Yaml.Document

/-!
Reading the data of YAML texts: the one document of a text, or all of them in turn.
-/

namespace InstallWatch.Yaml

/-- Why a text holds no data. -/
inductive Fault where
  | text (stop : Stop)
  | node (flaw : Flaw)
deriving DecidableEq

variable [Room]

/-- The data of a text with at most one document; a text without any holds null. -/
def readOne (s : List Char) : Except Fault Data :=
  match documentOf s with
  | .error stop => .error (.text stop)
  | .ok none => .ok .null
  | .ok (some d) => d.data.mapError .node

/-- The data of every document, up to the first that holds none, and what is wrong with that one. -/
def dataOf : List Document → Option Stop → List Data × Option Fault
  | [], stop => ([], stop.map .text)
  | d :: more, stop =>
    match d.data with
    | .error flaw => ([], some (.node flaw))
    | .ok first =>
      let (ds, fault) := dataOf more stop
      (first :: ds, fault)

/-- The documents of a text in order. Each can be used before the next one is looked at. -/
def readAll (s : List Char) : List Data × Option Fault :=
  let (ds, stop) := documentsOf s
  dataOf ds stop

end InstallWatch.Yaml
