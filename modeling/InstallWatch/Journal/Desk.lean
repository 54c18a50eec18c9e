import InstallWatch.Files.Tree
import InstallWatch.Journal.Entry
import InstallWatch.Text.Encodable

/-!
Where entries go. Each run sets up the desk anew: the console shows what is important enough to the user, and a
file in the folder of the installation, if that folder is there, keeps everything from debug on behind what it
holds already. An entry that cannot be written as UTF-8 is not kept, and shown with escapes.
-/

namespace InstallWatch.Journal
open InstallWatch.Files

inductive Sink where
  | console (level : Level)
  | file (path : Path)
deriving DecidableEq, Repr

/-- The least level that a sink takes. -/
def Sink.level : Sink → Level
  | console level => level
  | file _ => Level.debug

structure Desk where
  /-- The folder that relative paths start from. -/
  here : Path
  sinks : List Sink
  /-- What the console has shown in this run. -/
  screen : List Entry
  /-- What the journal files hold, by their places. -/
  files : List (List String × List Entry)

namespace Desk

def empty (here : Path) : Desk := ⟨here, [], [], []⟩

/-- The name of the journal's file. -/
def fileName : String := ".nodezero.log"

def place (d : Desk) (p : Path) : List String := (d.here.below p).resolved

/-- What the file at a path holds, if there is one. -/
def file? (d : Desk) (p : Path) : Option (List Entry) := d.files.lookup (d.place p)

def appendAt (place : List String) (e : Entry) :
    List (List String × List Entry) → List (List String × List Entry)
  | [] => [(place, [e])]
  | f :: fs => if f.1 = place then (place, f.2 ++ [e]) :: fs else f :: appendAt place e fs

/-- Gives an entry to a sink. -/
def give (e : Entry) (d : Desk) (sink : Sink) : Desk :=
  if e.level < sink.level then d
  else match sink with
    | .console _ => { d with screen := d.screen ++ [{ e with message := Text.withHalvesEscaped e.message }] }
    | .file path =>
      if Text.isEncodable e.message then { d with files := appendAt (d.place path) e d.files } else d

/-- Sends an entry to every sink. Nothing below debug is sent. -/
def send (d : Desk) (e : Entry) : Desk :=
  if e.level < Level.debug then d else d.sinks.foldl (give e) d

def sendAll (d : Desk) (es : List Entry) : Desk := es.foldl send d

/-- Why the desk of a run cannot be set up. -/
inductive SetUpFault where
  | unreachable (f : Files.Fault)
  /-- Where the journal's file should be, there is a folder. -/
  | folderThere
deriving DecidableEq, Repr

/-- The path of the journal's file for a folder, if the folder is there. -/
def path? (t : Tree) (folder : Option Path) : Except SetUpFault (Option Path) :=
  match folder with
  | none => .ok none
  | some p => match t.isFolder p with
    | .error f => .error (.unreachable f)
    | .ok false => .ok none
    | .ok true =>
      let file := p.child fileName
      match t.isFolder file with
      | .ok true => .error .folderThere
      | .ok false => .ok (some file)
      | .error f => .error (.unreachable f)

def pathText : Option Path → String
  | some p => p.text
  | none => "None"

/-- The first entries of a run. -/
def opening (runId : String) (path : Option Path) : List Entry :=
  [debug "=== nodezero run started ===", debug ("run_id=" ++ runId), debug ("log_file=" ++ pathText path)]

/-- A desk that has not been set up for a run. -/
def cleared (d : Desk) : Desk := { d with sinks := [], screen := [] }

/-- The file at a path is there from now on, if it was not before. -/
def touch (d : Desk) (p : Path) : Desk :=
  if (d.file? p).isSome then d else { d with files := d.files ++ [(d.place p, [])] }

/-- Sets up the desk for a run that keeps a file, or none. -/
def openWith (d : Desk) (path : Option Path) (level : Level) (runId : String) : Desk :=
  let d := path.elim d d.touch
  sendAll { d with sinks := (path.map Sink.file).toList ++ [.console level], screen := [] }
    (opening runId path)

/-- Sets up the desk for a run. -/
def setUp (d : Desk) (t : Tree) (folder : Option Path) (level : Level) (runId : String) :
    Except SetUpFault Desk :=
  (path? t folder).map fun path => d.openWith path level runId

end InstallWatch.Journal.Desk
