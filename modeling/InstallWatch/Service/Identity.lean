import InstallWatch.Journal.Entry
import InstallWatch.Json.Value
import InstallWatch.Uuid

/-!
Which cluster or infra-env the service knows. Its listing decides: one item has an identity, none means that
nothing is registered yet, and several cannot be told apart.
-/

namespace InstallWatch.Service

inductive Identity where
  | registered (id : Uuid)
  | unregistered
  | ambiguous (count : Nat)
deriving DecidableEq

/-- Why a listing's only item has no identity. -/
inductive ItemFault where
  | notObject
  | noId
  | notUuid
deriving DecidableEq

structure BadItem where
  item : Json
  fault : ItemFault

def BadItem.message (b : BadItem) : String := "listing item has no valid id: " ++ b.item.quoted

namespace Identity

def ofItem (item : Json) : Except ItemFault Uuid :=
  match item with
  | .object members => match members.lookup "id" with
    | none => .error .noId
    | some id => match Uuid.parse? id.display with
      | none => .error .notUuid
      | some u => .ok u
  | _ => .error .notObject

def ofListing (items : List Json) : Except BadItem Identity :=
  match items with
  | [] => .ok .unregistered
  | [item] => match ofItem item with
    | .ok u => .ok (.registered u)
    | .error fault => .error ⟨item, fault⟩
  | _ => .ok (.ambiguous items.length)

def count : Identity → Nat
  | registered _ => 1
  | unregistered => 0
  | ambiguous n => n

def id? : Identity → Option Uuid
  | registered u => some u
  | _ => none

/-- A word for the case. -/
def status : Identity → String
  | registered _ => "resolved"
  | unregistered => "not-registered"
  | ambiguous _ => "ambiguous"

def describe : Identity → String
  | registered u => u.text
  | unregistered => "not registered"
  | ambiguous n => "ambiguous (" ++ toString n ++ ")"

/-- The noun without the `s` of its plural. -/
def singular (noun : String) : String :=
  if noun.toList.getLast? = some 's' then String.ofList noun.toList.dropLast else noun

/-- What the journal says of an identity that is not known. -/
def report (noun : String) : Identity → List Journal.Entry
  | registered _ => []
  | unregistered => [Journal.debug (singular noun ++ " is not registered in rest API")]
  | ambiguous n => [Journal.info ("found too many " ++ noun ++ ". number of " ++ noun ++ " found: " ++ toString n)]

end InstallWatch.Service.Identity
