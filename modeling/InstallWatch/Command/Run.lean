import InstallWatch.Command.Events
import InstallWatch.Command.Line
import InstallWatch.Command.Status
import InstallWatch.Command.WaitForApi
import InstallWatch.Journal.Desk
import InstallWatch.Service.Connection

/-!
One run of the program: the line is read, the journal set up, the settings taken from the environment, and the
command executed. A line that is not in order stops the run as soon as that shows: in the options or in the
command's name, before the journal is set up; behind the name, after it.
-/

namespace InstallWatch.Command
open InstallWatch.Service

/-- What a run finds when it starts. -/
structure Surroundings (T : Type) where
  tree : Files.Tree
  environment : Environment
  /-- By which the journal tells this run from others. -/
  runId : String
  now : T
  server : Server T

/-- What a run leaves behind. -/
structure Report (T : Type) where
  session : Session T
  desk : Journal.Desk
  outcome : Outcome

def programVersion : String := "0.1.0"

variable {T : Type} [Seconds T] [Asset.Library]

/-- The end of a command that finds no service to talk to. -/
def unconnected (s : Session T) (f : ConnectionFault) : Session T × Outcome :=
  match f with
  | .assets (.unexpected f) => (s, .crashed (.asset f))
  | .unreachable f => (s, .crashed (.unreachable f))
  | f =>
    (s.log (Journal.error ("failed to create node zero REST client: " ++ f.message) ::
      (f.reason?.map fun r => Journal.debug ("caused by: " ++ r)).toList), .failed)

/-- Executes a command for a folder, under settings. -/
def execute (w : Surroundings T) (folder : Files.Path) (settings : Settings) (command : Command)
    (s : Session T) : Session T × Outcome :=
  let connected (s : Session T) (use : Client T → Session T → Session T × Outcome) :
      Session T × Outcome :=
    match Client.connect w.tree w.environment folder settings s with
    | (s, .error f) => unconnected s f
    | (s, .ok c) => use c s
  match command with
  | .status => connected s showStatus
  | .events infraEnv => connected s (showEvents infraEnv)
  | .waitForApi timeout => match Seconds.ofNat? timeout with
    | none => (s, .crashed .endlessWait)
    | some seconds =>
      connected { s with lifetime := .lasting s.now seconds } (awaitApi timeout settings.pollInterval)
  | .version => (s, ⟨["nodezero " ++ programVersion], .done⟩)

/-- Runs the program on the words of a line. -/
def run (w : Surroundings T) (desk : Journal.Desk) (words : List String) : Report T :=
  let s : Session T := .start w.now .unbounded w.server
  match Line.read? words with
  | none => ⟨s, desk, .misused⟩
  | some line => match Journal.Level.parse? line.level with
    | none =>
      let desk := desk.openWith none Journal.Level.info w.runId
      ⟨s, desk.send (Journal.error ("invalid log-level: " ++ Journal.Level.refusal line.level)), .failed⟩
    | some level => match desk.setUp w.tree (some line.folder) level w.runId with
      | .error f => ⟨s, desk.cleared, .crashed (.journal f)⟩
      | .ok desk =>
        let (settings, entries) := Settings.ofEnvironment w.environment
        let s := s.log entries
        let (s, outcome) := match line.command with
          | none => (s, .misused)
          | some command => execute w line.folder settings command s
        ⟨s, desk.sendAll s.entries, outcome⟩

end InstallWatch.Command
