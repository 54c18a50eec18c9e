import InstallWatch.Command.Outcome
import InstallWatch.Service.Client
import InstallWatch.Service.Event

/-!
The command that prints the events of an infra-env, one a line: of the one that is asked for, or else of the
one that is registered.
-/

namespace InstallWatch.Command
open InstallWatch.Service

variable {T : Type} [Seconds T]

/-- Why an event is not printed. -/
inductive BadEvent where
  | notObject
  /-- Its line cannot be written as UTF-8. -/
  | unwritable (line : String)

/-- The lines of events up to the first that is not printed, and why that one is not. -/
def eventLines : List Json → List String × Option BadEvent
  | [] => ([], none)
  | e :: es => match (Event.line? e).map Text.withoutControls with
    | none => ([], some .notObject)
    | some line =>
      if Text.isEncodable line then
        let (lines, bad) := eventLines es
        (line :: lines, bad)
      else ([], some (.unwritable line))

/-- What the journal says when events cannot be read. -/
def eventsTrouble (c : Client T) (why : String) : Journal.Entry :=
  Journal.error ("failed to read events from " ++ c.location.url ++ ": " ++ why)

/-- The end of the command when a call fails. -/
def eventsFailed (c : Client T) (s : Session T) (f : Fault) : Session T × Outcome :=
  if f.isExpected then (s.log [eventsTrouble c f.message], .failed) else (s, .crashed (.call f))

def printEvents (c : Client T) (infraEnv : String) (s : Session T) : Session T × Outcome :=
  match c.events infraEnv s with
  | (s, .error f) => eventsFailed c s f
  | (s, .ok es) =>
    match eventLines es with
    | (lines, none) => (s, ⟨lines, .done⟩)
    | (lines, some .notObject) => (s, ⟨lines, .crashed .event⟩)
    | (lines, some (.unwritable line)) =>
      (s.log [eventsTrouble c (Text.encodingRefusal line)], ⟨lines, .failed⟩)

def showEvents (infraEnv : Option String) (c : Client T) (s : Session T) : Session T × Outcome :=
  match infraEnv with
  | some id => printEvents c id s
  | none => match c.infraEnv s with
    | (s, .error f) => eventsFailed c s f
    | (s, .ok i) => match i.id? with
      | some u => printEvents c u.text s
      | none => (s.log [Journal.error ("cannot read events: infra-env is " ++ i.describe)], .failed)

end InstallWatch.Command
