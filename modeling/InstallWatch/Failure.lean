import InstallWatch.Text.Quoted

/-!
Failures of an action, by their kinds. A kind may be a special case of another, and all are cases of `any`.
-/

namespace InstallWatch

inductive Failure.Kind where
  | any
  | notReady
  | value
  | lookup
  | key
  | system
  | runtime
deriving DecidableEq, Repr

structure Failure where
  kind : Failure.Kind
  message : String
deriving DecidableEq, Repr

namespace Failure

/-- A kind is a case of itself, of `any`, and missing keys are failed lookups. -/
def Kind.isA (k general : Kind) : Bool :=
  k = general || general = .any || (k = .key && general = .lookup)

/-- The text of a failure. A missing key is shown in quotes. -/
def text (f : Failure) : String :=
  if f.kind = .key then Text.quoted f.message else f.message

end InstallWatch.Failure
