import InstallWatch.Asset.Kind
import InstallWatch.Environment.Expansion
import InstallWatch.Files.Tree
import InstallWatch.Text.Utf8
import InstallWatch.Yaml.Reader

/-!
From a file's bytes to what an asset holds: the text with its variables expanded, the data in it, and the
record the data makes. The manifests are one document per host; the other files are one mapping.
-/

namespace InstallWatch.Asset
open InstallWatch.Schema

inductive ReadFault where
  /-- It cannot be told whether the file is there. -/
  | unreachable (f : Files.Fault)
  /-- The file is there, and the system does not let it be read. -/
  | unreadable (complaint : String)
  | notUtf8 (bytes : Text.Bytes)
  | yaml (text : List Char) (f : Yaml.Fault)
  | notMapping (file kind : String)
  | notMappings (file : String)
  | invalid (title : String) (d : Data) (faults : List Fault)

/-- What the readers of files bring along: their room, and their words for faults. -/
class Library extends Yaml.Room, Wording where
  /-- What is said of bytes that are no text. -/
  undecodable : Text.Bytes → String
  /-- What is said of a text that holds no data. -/
  notYaml : List Char → Yaml.Fault → String

/-- Readers with the usual room, who say little. -/
@[reducible]
def Library.plain : Library where
  toRoom := .usual
  toWording := .brief
  undecodable _ := "the file is no text"
  notYaml _ _ := "the text is no YAML"

namespace ReadFault

/-- Whether the fault is one that a file is expected to have. The others come from explicit tags on nodes that do
not fit them, from what is too large or too deep to be read, and from the way to the file. -/
def isExpected : ReadFault → Bool
  | unreachable _ => false
  | yaml _ (.node .unknownWord) | yaml _ (.node .notTime) | yaml _ (.node .timeInMapping) => false
  | yaml _ (.node .emptyNumber) | yaml _ (.node .tooFar) | yaml _ (.node .hugePlace) => false
  | yaml _ (.text .hugeCharacter) | yaml _ (.text .tooDeep) => false
  | _ => true

def message [Library] : ReadFault → String
  | unreachable f => f.message
  | unreadable complaint => complaint
  | notUtf8 bytes => Library.undecodable bytes
  | yaml text (.node flaw) => flaw.message?.getD (Library.notYaml text (.node flaw))
  | yaml _ (.text .noCharacter) => "chr() arg not in range(0x110000)"
  | yaml _ (.text (.longVersion digits)) => Numeral.lengthRefusal digits
  | yaml text f => Library.notYaml text f
  | notMapping file kind => file ++ ": expected a mapping, got " ++ kind
  | notMappings file => file ++ ": expected a mapping per document"
  | invalid title d faults => Wording.refusal title d faults

end ReadFault

/-- The text of a file, with one kind of line end and references to variables replaced. -/
def fileText (env : Environment) (bytes : Text.Bytes) : Except ReadFault (List Char) :=
  match Text.decodeUtf8 bytes with
  | none => .error (.notUtf8 bytes)
  | some s => .ok (env.expand (Text.ofChars (Text.normalizeLineEnds s)))

/-- A record from data, or what is wrong with the data. -/
def checked {α : Type} (title : String) (check : Data → Checked α) (d : Data) : Except ReadFault α :=
  match check d with
  | .accepted a => .ok a
  | .refused faults => .error (.invalid title d faults)

variable [Yaml.Room]

/-- The one mapping in a text. A text that says nothing is the empty mapping. -/
def mapping (file : String) (s : List Char) : Except ReadFault Data :=
  match Yaml.readOne s with
  | .error f => .error (.yaml s f)
  | .ok d =>
    if d.isVoid then .ok (.map [])
    else match d with
      | .map es => .ok (.map es)
      | d => .error (.notMapping file d.kindName)

/-- The hosts that the documents of a text declare, one each. Documents that say nothing declare none, and the first
fault in the order of the documents counts. -/
def hostsOf (file : String) (s : List Char) : List Data → Option Yaml.Fault → Except ReadFault (List Host)
  | [], some f => .error (.yaml s f)
  | [], none => .ok []
  | d :: ds, fault => do
    if d.isVoid then hostsOf file s ds fault
    else match d with
      | .map es =>
        let h ← checked Host.title Host.check (.map es)
        let hs ← hostsOf file s ds fault
        return h :: hs
      | _ => .error (.notMappings file)

/-- What an asset holds, from the text of its file. -/
def ofText (file : String) (s : List Char) : (a : Asset) → Except ReadFault a.Content
  | agentConfig => do checked AgentConfig.title AgentConfig.check (← mapping file s)
  | hosts => do
    let (ds, fault) := Yaml.readAll s
    return ⟨← hostsOf file s ds fault⟩
  | installConfig => do checked InstallConfig.title InstallConfig.check (← mapping file s)

/-- What an asset holds, from the bytes of its file. -/
def ofBytes (file : String) (env : Environment) (bytes : Text.Bytes) (a : Asset) :
    Except ReadFault a.Content := do
  ofText file (← fileText env bytes) a

/-- What an asset holds, from what reading its file comes to. -/
def ofContents (file : String) (env : Environment) (c : Files.Contents) (a : Asset) : Except ReadFault a.Content :=
  match c with
  | .error complaint => .error (.unreadable complaint)
  | .ok bytes => ofBytes file env bytes a

end InstallWatch.Asset
