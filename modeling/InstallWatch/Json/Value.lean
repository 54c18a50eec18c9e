import InstallWatch.Decimal.Notation
import InstallWatch.Text.Quoted

/-!
JSON values, with whole numbers and numbers with a fraction kept apart and members in the order of their
first appearance; and the texts by which messages show them.
-/

namespace InstallWatch

inductive Json where
  | null
  | bool (b : Bool)
  | int (n : Int)
  | float (x : Float)
  | text (s : String)
  | list (items : List Json)
  | object (members : List (String × Json))

namespace Json

/-- Members with a later one written over an earlier one of the same name, in the earlier one's place. -/
def put (name : String) (v : Json) : List (String × Json) → List (String × Json)
  | [] => [(name, v)]
  | m :: ms => if m.1 = name then (name, v) :: ms else m :: put name v ms

/-- The member of a name. -/
def member? (name : String) : Json → Option Json
  | object ms => ms.lookup name
  | _ => none

/-- The word by which messages name a value's kind. -/
def kindName : Json → String
  | null => "NoneType"
  | bool _ => "bool"
  | int _ => "int"
  | float _ => "float"
  | text _ => "str"
  | list _ => "list"
  | object _ => "dict"

/-- Values that stand for nothing: null, false, zero, and whatever is empty. -/
def isVoid : Json → Bool
  | null => true
  | bool b => !b
  | int n => n = 0
  | float x => x == 0.0
  | text s => s.isEmpty
  | list items => items.isEmpty
  | object members => members.isEmpty

mutual

/-- A value as messages show it, texts in quotes. -/
def quoted : Json → String
  | null => "None"
  | bool true => "True"
  | bool false => "False"
  | int n => toString n
  | float x => Decimal.floatText x
  | text s => Text.quoted s
  | list items => "[" ++ ", ".intercalate (quotedItems items) ++ "]"
  | object members => "\x7b" ++ ", ".intercalate (quotedMembers members) ++ "\x7d"

def quotedItems : List Json → List String
  | [] => []
  | v :: vs => quoted v :: quotedItems vs

def quotedMembers : List (String × Json) → List String
  | [] => []
  | (name, v) :: ms => (Text.quoted name ++ ": " ++ quoted v) :: quotedMembers ms

end

/-- A value as messages show it, a text on its own without quotes. -/
def display : Json → String
  | text s => s
  | v => v.quoted

end InstallWatch.Json
