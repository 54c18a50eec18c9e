import InstallWatch.Command.Outcome
import InstallWatch.Service.Client

/-!
The command that shows where the service is, whether it answers, and what it knows. A lookup that fails is
shown in its own line and keeps no other one from being made.
-/

namespace InstallWatch.Command
open InstallWatch.Service

variable {T : Type} [Seconds T]

/-- What to show of an identity that was looked up. -/
def describe (s : Session T) : Except Fault Identity → Session T × Except Fault String
  | .ok i => (s, .ok i.describe)
  | .error f =>
    if f.isExpected then
      (s.log [Journal.debug ("lookup failed: " ++ f.message)], .ok ("unavailable (" ++ f.message ++ ")"))
    else (s, .error f)

def locationLines (c : Client T) : List String :=
  ["Rendezvous IP : " ++ c.address, "REST API      : " ++ c.location.url]

def liveLine (live : Bool) : String := "Live          : " ++ if live then "yes" else "no"

def clusterLine (described : String) : String := "Cluster       : " ++ described

def infraEnvLine (described : String) : String := "InfraEnv      : " ++ described

/-- Prints lines behind those that are shown already, and goes on; a line that cannot be written ends it all. -/
def printing (shown lines : List String) (s : Session T) (next : List String → Session T × Outcome) :
    Session T × Outcome :=
  let lines := lines.map Text.withoutControls
  let written := lines.takeWhile Text.isEncodable
  match lines.drop written.length with
  | [] => next (shown ++ lines)
  | line :: _ => (s, ⟨shown ++ written, .crashed (.unwritable line)⟩)

/-- Shows what was looked up, in a line of its own, and goes on. -/
def showing (shown : List String) (line : String → String) (s : Session T) (r : Except Fault Identity)
    (next : Session T → List String → Session T × Outcome) : Session T × Outcome :=
  match describe s r with
  | (s, .error f) => (s, ⟨shown, .crashed (.call f)⟩)
  | (s, .ok described) => printing shown [line described] s (next s)

def showStatus (c : Client T) (s : Session T) : Session T × Outcome :=
  printing [] (locationLines c) s fun shown =>
    match c.isLive s with
    | (s, .error f) => (s, ⟨shown, .crashed (.call f)⟩)
    | (s, .ok false) => (s, ⟨shown ++ [liveLine false], .done⟩)
    | (s, .ok true) =>
      let (s, cluster) := c.cluster s
      showing (shown ++ [liveLine true]) clusterLine s cluster fun s shown =>
        let (s, infraEnv) := c.infraEnv s
        showing shown infraEnvLine s infraEnv fun s shown => (s, ⟨shown, .done⟩)

end InstallWatch.Command
