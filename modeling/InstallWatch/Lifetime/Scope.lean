import InstallWatch.Journal.Entry
import InstallWatch.Lifetime

/-!
A lifetime at work: a clock, the callbacks that run when it is cancelled, and a record of those that ran. A
callback may raise an error, which holds up no other, or ask for an exit, which does; it may register more, which run at
once because the lifetime is cancelled by then, and raise what they raise where they are registered; and it may cancel
again, which finds nothing to run.
-/

namespace InstallWatch

/-- What can be raised. -/
inductive Raise where
  | error
  /-- The wish to end the program. No handler of errors is meant for it. -/
  | exit
deriving DecidableEq, Repr

/-- A callback that does nothing but run, and perhaps raise something. -/
structure PlainCallback where
  name : String
  raises : Option Raise
deriving DecidableEq, Repr

structure Callback where
  name : String
  /-- The plain callbacks that this one registers when it runs. -/
  registers : List PlainCallback
  /-- What it deals with, where one that it registers raises it. Whatever else is raised there ends it. -/
  catches : List Raise
  cancels : Bool
  /-- What it raises in the end. -/
  raises : Option Raise
deriving DecidableEq, Repr

namespace Callback

def ofPlain (p : PlainCallback) : Callback := ⟨p.name, [], [], false, p.raises⟩

/-- A callback that does nothing but run. -/
def plain (name : String) : Callback := ofPlain ⟨name, none⟩

def shown (c : Callback) : String := "cb:" ++ c.name

/-- What the journal says of a callback that raised an error when the lifetime was cancelled. -/
def failure (c : Callback) : Journal.Entry :=
  Journal.error ("cancel callback " ++ c.shown ++ " failed")

end Callback

/-- What a registration leaves behind, by which it can be taken back. -/
inductive Handle where
  | held (c : Callback)
  /-- The callback has run already. -/
  | spent
deriving DecidableEq, Repr

structure Scope (T : Type) where
  now : T
  lifetime : Lifetime T Callback
  /-- What the registrations left behind, in their order. -/
  handles : List Handle
  /-- The names of the callbacks that ran. -/
  calls : List String
  entries : List Journal.Entry

namespace Scope

variable {T : Type}

def start (now : T) (l : Lifetime T Callback) : Scope T := ⟨now, l, [], [], []⟩

def note (s : Scope T) (name : String) : Scope T := { s with calls := s.calls ++ [name] }

/-- Registers a plain callback, or runs it if the lifetime is cancelled, and says what it raises. -/
def registerPlain (s : Scope T) (p : PlainCallback) : Scope T × Option Raise :=
  match s.lifetime.register (.ofPlain p) with
  | some l => ({ s with lifetime := l }, none)
  | none => (s.note p.name, p.raises)

/-- Registers plain callbacks one after the other, up to one that raises what is not caught. -/
def registerAll (s : Scope T) (catches : List Raise) : List PlainCallback → Scope T × Option Raise
  | [] => (s, none)
  | p :: ps => match s.registerPlain p with
    | (s, none) => s.registerAll catches ps
    | (s, some r) => if r ∈ catches then s.registerAll catches ps else (s, some r)

/-- Runs a callback, and says what it raises. -/
def run (s : Scope T) (c : Callback) : Scope T × Option Raise :=
  match (s.note c.name).registerAll c.catches c.registers with
  | (s, some r) => (s, some r)
  | (s, none) => (if c.cancels then { s with lifetime := s.lifetime.cancel.1 } else s, c.raises)

/-- Runs callbacks at the cancellation. An error is only noted in the journal; an exit is not for the cancellation to
handle, and leaves the rest undone. -/
def runAll (s : Scope T) : List Callback → Scope T × Option Raise
  | [] => (s, none)
  | c :: cs => match s.run c with
    | (s, none) => s.runAll cs
    | (s, some .error) => { s with entries := s.entries ++ [c.failure] }.runAll cs
    | (s, some .exit) => (s, some .exit)

/-- Cancels the lifetime, and says what whoever cancels it meets. -/
def cancel (s : Scope T) : Scope T × Option Raise :=
  let (l, due) := s.lifetime.cancel
  { s with lifetime := l }.runAll due

/-- Registers a callback, which runs at once if the lifetime is cancelled. Whoever registers it meets what it raises
then. -/
def register (s : Scope T) (c : Callback) : Scope T × Option Raise :=
  match s.lifetime.register c with
  | some l => ({ s with lifetime := l, handles := s.handles ++ [.held c] }, none)
  | none => match s.run c with
    | (s, some r) => (s, some r)
    | (s, none) => ({ s with handles := s.handles ++ [.spent] }, none)

/-- Takes back the registration of a handle. -/
def unregister (s : Scope T) (handle : Nat) : Scope T :=
  match s.handles[handle]? with
  | some (.held c) => { s with lifetime := s.lifetime.unregister c }
  | _ => s

def advance [Seconds T] (s : Scope T) (seconds : T) : Scope T := { s with now := s.now + seconds }

/-- What can happen to a lifetime. -/
inductive Step (T : Type) where
  | register (c : Callback)
  | unregister (handle : Nat)
  | cancel
  | advance (seconds : T)

def step [Seconds T] (s : Scope T) : Step T → Scope T
  | .register c => (s.register c).1
  | .unregister handle => s.unregister handle
  | .cancel => s.cancel.1
  | .advance seconds => s.advance seconds

def steps [Seconds T] (s : Scope T) (ss : List (Step T)) : Scope T := ss.foldl step s

end InstallWatch.Scope
