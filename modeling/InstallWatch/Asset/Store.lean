import InstallWatch.Asset.Reading
import InstallWatch.Files.Tree
import InstallWatch.Journal.Entry

/-!
The assets of one folder. An asset is read when it is first asked for, and kept from the first success on; a
missing file is no fault, and is looked for again the next time.
-/

namespace InstallWatch.Asset
open InstallWatch.Files

/-- An asset whose file is there and cannot be read. -/
structure LoadFault where
  asset : Asset
  path : Path
  reason : ReadFault

def LoadFault.message [Library] (f : LoadFault) : String :=
  "failed to load " ++ f.asset.label ++ " from " ++ f.path.text ++ ": " ++ f.reason.message

structure Store where
  folder : Path
  cached : (a : Asset) → Option a.Content

namespace Store

def empty (folder : Path) : Store := ⟨folder, fun _ => none⟩

/-- The store of a folder, if the folder is there. -/
def openAt (t : Tree) (folder : Path) : Except Fault (Option Store) :=
  (t.isFolder folder).map fun there => if there then some (empty folder) else none

/-- What to say of a folder that is not there. -/
def refusal (folder : Path) : String :=
  "failed to create asset store: " ++ folder.text ++ " is not a directory"

def pathOf (s : Store) (a : Asset) : Path := s.folder.child a.fileName

/-- Keeps what an asset holds. -/
def keep (s : Store) (a : Asset) (content : a.Content) : Store :=
  { s with cached := fun b => if h : a = b then some (h ▸ content) else s.cached b }

theorem cached_keep_self (s : Store) (a : Asset) (content : a.Content) :
    (s.keep a content).cached a = some content := by
  simp [keep]

theorem cached_keep_of_ne {s : Store} {a b : Asset} (h : a ≠ b) (content : a.Content) :
    (s.keep a content).cached b = s.cached b := by
  simp [keep, h]

/-- What a load leads to: the store and the journal's entries, and what the asset holds if it is there. -/
structure Loaded (a : Asset) where
  store : Store
  entries : List Journal.Entry
  outcome : Except LoadFault (Option a.Content)

/-- Loads an asset: what is kept counts, and else what is in its file. -/
def load [Yaml.Room] (t : Tree) (env : Environment) (s : Store) (a : Asset) : Loaded a :=
  match s.cached a with
  | some content => ⟨s, [], .ok (some content)⟩
  | none =>
    let path := s.pathOf a
    match t.file? path with
    | .error f => ⟨s, [], .error ⟨a, path, .unreachable f⟩⟩
    | .ok none => ⟨s, [Journal.debug (a.label ++ " not found at " ++ path.text)], .ok none⟩
    | .ok (some contents) => match ofContents path.name env contents a with
      | .error reason => ⟨s, [], .error ⟨a, path, reason⟩⟩
      | .ok content => ⟨s.keep a content, [], .ok (some content)⟩

/-- The names of the assets that are kept, sorted. -/
def cachedLabels (s : Store) : List String :=
  (if (s.cached .agentConfig).isSome then [Asset.agentConfig.label] else []) ++
    (if (s.cached .hosts).isSome then [Asset.hosts.label] else []) ++
    (if (s.cached .installConfig).isSome then [Asset.installConfig.label] else [])

end InstallWatch.Asset.Store
