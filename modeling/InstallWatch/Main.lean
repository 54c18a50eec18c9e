import InstallWatch.Command.Run
import InstallWatch.Service.Script

/-!
The program. What the service answers is read from a record of its replies, whose file a variable names; the
journal's new entries are appended to its file, and those for the user go to standard error.
-/

namespace InstallWatch.Main

/-- The variable that names the record of the service's replies. -/
def recordVariable : String := "INSTALLWATCH_REPLIES"

/-- The variables of this process. -/
def environment : IO Environment := do
  let bytes ← try IO.FS.readBinFile "/proc/self/environ" catch _ => pure .empty
  let text := (Text.textOfUtf8? bytes.data.toList).getD ""
  return ⟨(text.splitOn "\x00").filterMap fun entry =>
    match entry.splitOn "=" with
    | name :: value :: more => some (name, "=".intercalate (value :: more))
    | _ => none⟩

/-- What is at a path of the folder where the program works. -/
def item? (p : Files.Path) : IO (Option Files.Item) := do
  let path := (← IO.currentDir) / p.text
  if ← path.isDir then return some .folder
  if !(← path.pathExists) then return none
  try
    return some (.file (← IO.FS.readBinFile path).data.toList)
  catch complaint => return some (.unreadable (toString complaint))

/-- What is at the paths that a command for a folder may look at. -/
def readTree (here folder : Files.Path) : IO Files.Tree := do
  let paths := folder :: folder.child Journal.Desk.fileName :: Asset.all.map fun a => folder.child a.fileName
  paths.foldlM (fun t p => do return ((← item? p).map (t.put p)).getD t) (.empty here)

def readServer (env : Environment) : IO (Service.Server Float) := do
  match env.given? recordVariable with
  | none => return Service.Script.unreachable ["infra-envs", "clusters", "events"]
  | some file =>
    let bytes ← IO.FS.readBinFile file
    match Json.ofBytes Service.Script.room bytes.data.toList with
    | .ok record => return Service.Script.server Service.Script.noConnection? record
    | .error f => throw (IO.userError f.message)

/-- Appends the entries of the journal's files. -/
def writeJournal (d : Journal.Desk) : IO Unit := do
  for (place, entries) in d.files do
    let handle ← IO.FS.Handle.mk ("/" ++ "/".intercalate place) .append
    for e in entries do
      handle.write (bytesOf (e.line ++ "\n"))
where
  bytesOf (s : String) : ByteArray := ⟨(Text.encodeUtf8 s).toArray⟩

def run (words : List String) : IO UInt32 := do
  let env ← environment
  let here := Files.Path.parse (← IO.currentDir).toString
  let tree ← match Command.Line.read? words with
    | some line => readTree here line.folder
    | none => pure (.empty here)
  let runId := (Uuid.random (← IO.rand 0 (Nat.pow 2 122 - 1))).text
  let _ : Asset.Library := .plain
  let report := Command.run ⟨tree, env, runId, 0.0, ← readServer env⟩ (.empty here) words
  writeJournal report.desk
  for e in report.desk.screen do
    IO.eprintln e.line
  IO.print report.outcome.text
  return UInt32.ofNat report.outcome.verdict.exitCode

end InstallWatch.Main

def main (words : List String) : IO UInt32 := InstallWatch.Main.run words
