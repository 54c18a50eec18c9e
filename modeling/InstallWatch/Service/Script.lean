import InstallWatch.Service.Server

/-!
Recorded replies of a service, as JSON: an object with the replies of each resource, one or a list of them. A
reply has a body as `json`, `hex` or `body`, and perhaps a `status` and a `reason`, or it is an outage; it may
take time, `cancel` whoever waits, or `hang`. All of that has happened by the time anybody begins to wait.
-/

namespace InstallWatch.Service.Script

def text? : Json → Option String
  | .text s => some s
  | _ => none

def textOf (j : Json) (name : String) : String := ((j.member? name).bind text?).getD ""

def isSet (j : Json) (name : String) : Bool :=
  match j.member? name with
  | some (.bool b) => b
  | _ => false

def number? : Json → Option Float
  | .int n => some (.ofInt n)
  | .float x => some x
  | _ => none

/-- The bytes that pairs of hexadecimal digits spell. -/
def hexBytes : List Char → Text.Bytes
  | a :: b :: s =>
    UInt8.ofNat ((Text.hexValue? a).getD 0 * 16 + (Text.hexValue? b).getD 0) :: hexBytes s
  | _ => []

def body (j : Json) : Body :=
  match j.member? "json", (j.member? "hex").bind text? with
  | some v, _ => .json v
  | none, some digits => .bytes (hexBytes digits.toList)
  | none, none => .bytes (Text.encodeUtf8 (textOf j "body"))

def status (j : Json) : Int :=
  match j.member? "status" with
  | some (.int n) => n
  | _ => 200

/-- How many lists and objects inside each other the reader of a recorded body has room for. -/
def room : Nat := 965

variable {T : Type} [Seconds T]

/-- A recorded reply, given how outages are recorded. -/
def reply (outage? : Json → Option Outage) (j : Json) : Reply T :=
  .prompt (((j.member? "takes").bind number?).elim Seconds.zero Seconds.ofFloat) (isSet j "cancel") (isSet j "hang")
    (match outage? j with
      | some o => .error o
      | none => .ok ⟨status j, ((j.member? "reason").map Json.display).getD "", body j, room⟩)

def replies (outage? : Json → Option Outage) : Json → List (Reply T)
  | .list js => js.map (reply outage?)
  | j => [reply outage? j]

def server (outage? : Json → Option Outage) : Json → Server T
  | .object ms => ⟨ms.map fun (resource, j) => (resource, replies outage? j)⟩
  | _ => ⟨[]⟩

/-- An outage recorded as a failed connection with a message. -/
def noConnection? (j : Json) : Option Outage :=
  ((j.member? "outage").bind text?).map fun message => ⟨.connection, message⟩

/-- A service that cannot be reached. -/
def unreachable (resources : List String) : Server T :=
  ⟨resources.map fun r => (r, [.failed ⟨.connection, "no connection"⟩])⟩

end InstallWatch.Service.Script
