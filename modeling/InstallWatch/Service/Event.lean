import InstallWatch.Json.Value

/-!
Events of an installation as lines: time, severity and message, a hyphen for what is missing or void.
-/

namespace InstallWatch.Service.Event

def fields : List String := ["event_time", "severity", "message"]

def shown (members : List (String × Json)) (name : String) : String :=
  match members.lookup name with
  | some v => if v.isVoid then "-" else v.display
  | none => "-"

/-- The line of an event. Only objects are events. -/
def line? : Json → Option String
  | .object members => some (" ".intercalate (fields.map (shown members)))
  | _ => none

end InstallWatch.Service.Event
