import InstallWatch.Environment
import InstallWatch.Journal.Entry
import InstallWatch.Service.Settings

/-!
Settings from the environment: two variables override the two times. If any given override is invalid, none
counts, and the journal says how many were.
-/

namespace InstallWatch.Service.Settings
open InstallWatch.Schema

/-- The variables, and the fields they override. -/
def overrides : List (String × String) :=
  [("NODEZERO_REST_TIMEOUT", "timeout_seconds"), ("NODEZERO_POLL_INTERVAL", "poll_interval_seconds")]

/-- The record that the given overrides make. -/
def given (env : Environment) : Data :=
  .map (overrides.filterMap fun (name, field) =>
    (env.given? name).map fun value => (.text field, .text value))

/-- The settings that the environment gives. -/
def ofEnvironment [Wording] (env : Environment) : Settings × List Journal.Entry :=
  match check (given env) with
  | .accepted s => (s, [])
  | .refused faults =>
    (standard, [Journal.warning ("ignoring invalid REST client overrides: " ++
      Wording.refusal title (given env) faults)])

end InstallWatch.Service.Settings
