import InstallWatch.Asset.Bundle
import InstallWatch.Journal.Desk
import InstallWatch.Service.Connection
import InstallWatch.Text.Terminal

/-!
How a command ends: what it prints, and its verdict. Lines are printed without the control sequences of terminals.
-/

namespace InstallWatch.Command

/-- Failures that no command expects. -/
inductive Crash where
  | asset (f : Asset.LoadFault)
  | call (f : Service.Fault)
  /-- An event that is no object. -/
  | event
  /-- A line that cannot be written as UTF-8. -/
  | unwritable (line : String)
  /-- It cannot be told whether the folder is there. -/
  | unreachable (f : Files.Fault)
  | journal (f : Journal.Desk.SetUpFault)
  /-- A time to wait that is beyond the range of numbers. -/
  | endlessWait
  /-- A pause that nobody can sleep through. -/
  | endlessPause

inductive Verdict where
  | done
  /-- The command failed, and the journal says why. -/
  | failed
  /-- The line is not in order. -/
  | misused
  | crashed (c : Crash)

def Verdict.exitCode : Verdict → Nat
  | done => 0
  | failed => 1
  | misused => 2
  | crashed _ => 1

structure Outcome where
  /-- The lines as they are printed. -/
  lines : List String
  verdict : Verdict

namespace Outcome

def text (o : Outcome) : String := String.join (o.lines.map (· ++ "\n"))

def failed : Outcome := ⟨[], .failed⟩
def misused : Outcome := ⟨[], .misused⟩
def crashed (c : Crash) : Outcome := ⟨[], .crashed c⟩

end InstallWatch.Command.Outcome
