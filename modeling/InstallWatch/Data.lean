import InstallWatch.Calendar
import InstallWatch.Json.Value
import InstallWatch.Text.Utf8

/-!
Data as a file can hold it, before anything is known about its meaning: scalars, lists, sets and mappings
with keys of any kind, in their order. Keys are compared by value, so that `1`, `1.0` and `true` are one key.
-/

namespace InstallWatch

inductive Data where
  | null
  | bool (b : Bool)
  | int (n : Int)
  | float (x : Float)
  | text (s : String)
  | bytes (b : Text.Bytes)
  | date (d : Date)
  | moment (t : Moment)
  | list (items : List Data)
  | map (entries : List (Data × Data))
  | set (members : List Data)
  /-- The inside of a collection that holds itself, deeper than anybody looks. -/
  | endless

namespace Data

/-- The whole number that a float is, if it is one. -/
def wholeFloat? (x : Float) : Option Int :=
  if x.isNaN || x.isInf then none
  else
    let b := Decimal.Binary.ofFloat x
    let size? : Option Nat :=
      if 0 ≤ b.q then some (b.m * Nat.pow 2 b.q.toNat)
      else if b.m % Nat.pow 2 (-b.q).toNat = 0 then some (b.m / Nat.pow 2 (-b.q).toNat) else none
    size?.map fun n => if Decimal.isNegative x then -(n : Int) else n

/-- The whole number a scalar is equal to, if there is one. -/
def whole? : Data → Option Int
  | bool b => some (if b then 1 else 0)
  | int n => some n
  | float x => wholeFloat? x
  | _ => none

/-- Whether two scalars are one key. -/
def sameKey (a b : Data) : Bool :=
  match a.whole?, b.whole? with
  | some m, some n => m = n
  | none, none =>
    match a, b with
    | null, null => true
    | float x, float y => x == y
    | text s, text t => s = t
    | bytes x, bytes y => x = y
    | date x, date y => x = y
    | moment x, moment y => x.same y
    | _, _ => false
  | _, _ => false

/-- Writes an entry: a key that is there keeps its place and spelling, and gets the new value. -/
def put (k v : Data) : List (Data × Data) → List (Data × Data)
  | [] => [(k, v)]
  | e :: es => if sameKey e.1 k then (e.1, v) :: es else e :: put k v es

/-- The entry under a text key. -/
def entry? (name : String) : List (Data × Data) → Option Data
  | [] => none
  | (text s, v) :: es => if s = name then some v else entry? name es
  | _ :: es => entry? name es

/-- The word by which messages name the kind of data. -/
def kindName : Data → String
  | null => "NoneType"
  | bool _ => "bool"
  | int _ => "int"
  | float _ => "float"
  | text _ => "str"
  | bytes _ => "bytes"
  | date _ => "date"
  | moment _ => "datetime"
  | list _ => "list"
  | map _ => "dict"
  | set _ => "set"
  | endless => "object"

/-- Data that stands for nothing: null, false, zero, and whatever is empty. -/
def isVoid : Data → Bool
  | null => true
  | bool b => !b
  | int n => n = 0
  | float x => x == 0.0
  | text s => s.isEmpty
  | bytes b => b.isEmpty
  | date _ => false
  | moment _ => false
  | list items => items.isEmpty
  | map entries => entries.isEmpty
  | set members => members.isEmpty
  | endless => false

mutual

def ofJson : Json → Data
  | .null => null
  | .bool b => bool b
  | .int n => int n
  | .float x => float x
  | .text s => text s
  | .list items => list (ofJsonItems items)
  | .object members => map (ofJsonMembers members)

def ofJsonItems : List Json → List Data
  | [] => []
  | v :: vs => ofJson v :: ofJsonItems vs

def ofJsonMembers : List (String × Json) → List (Data × Data)
  | [] => []
  | (name, v) :: ms => (text name, ofJson v) :: ofJsonMembers ms

end

end InstallWatch.Data
