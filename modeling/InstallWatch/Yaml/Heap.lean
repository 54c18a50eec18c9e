import InstallWatch.Data
import InstallWatch.Yaml.Node

/-!
The collections of a document, each in the cell of its node's number, and the data they make. A collection that is
named in many places is made once. One that holds itself makes data without end, which is cut where nobody looks
any more.
-/

namespace InstallWatch.Yaml

/-- What a node has been built to. -/
inductive Ref where
  | scalar (d : Data)
  /-- The floating-point value that is no number, from a node of its own or from the word for it. Only what comes
  from the same source is the same key. -/
  | noNumber (source : Option NodeId)
  | collection (id : NodeId)

namespace Ref

/-- Only scalars are keys. -/
def isKey : Ref → Bool
  | collection _ => false
  | _ => true

def sameKey : Ref → Ref → Bool
  | scalar a, scalar b => a.sameKey b
  | noNumber s, noNumber t => s = t
  | _, _ => false

/-- The collection it is, if it is one. -/
def collection? : Ref → Option NodeId
  | collection id => some id
  | _ => none

/-- The data it is, given that of collections. -/
def data (known : NodeId → Data) : Ref → Data
  | scalar d => d
  | noNumber _ => .float (0.0 / 0.0)
  | collection id => known id

end Ref

/-- What a collection holds. -/
inductive Cell where
  | list (items : List Ref)
  | map (entries : List (Ref × Ref))
  | set (members : List Ref)
  /-- A list whose items are lists of two. -/
  | pairs (entries : List (Ref × Ref))

namespace Cell

/-- Writes an entry: a key that is there keeps its place and spelling, and gets the new value. -/
def put (k v : Ref) : List (Ref × Ref) → List (Ref × Ref)
  | [] => [(k, v)]
  | e :: es => if e.1.sameKey k then (e.1, v) :: es else e :: put k v es

/-- The collections it holds. -/
def collections : Cell → List NodeId
  | list items => items.filterMap Ref.collection?
  | map es | pairs es => es.flatMap fun e => e.1.collection?.toList ++ e.2.collection?.toList
  | set members => members.filterMap Ref.collection?

/-- The data it is, given that of collections. -/
def data (known : NodeId → Data) : Cell → Data
  | list items => .list (items.map (Ref.data known))
  | map es => .map (es.map fun e => (e.1.data known, e.2.data known))
  | set members => .set (members.map (Ref.data known))
  | pairs es => .list (es.map fun e => .list [e.1.data known, e.2.data known])

end Cell

/-- The collections by their numbers. -/
structure Heap where
  cells : Array Cell

namespace Heap

def ofSize (n : Nat) : Heap := ⟨Array.replicate n (.list [])⟩

def cell (h : Heap) (id : NodeId) : Cell := h.cells.getD id (.list [])

def set (h : Heap) (id : NodeId) (c : Cell) : Heap := ⟨h.cells.setIfInBounds id c⟩

theorem cell_ofSize (n : Nat) (id : NodeId) : (ofSize n).cell id = .list [] := by
  simp [ofSize, cell, Array.getD]

/-- A cell that is written holds what was written, and the others hold what they held. -/
theorem cell_set (h : Heap) (id other : NodeId) (c : Cell) :
    (h.set id c).cell other = h.cell other ∨ id = other ∧ (h.set id c).cell other = c := by
  simp only [set, cell, Array.getD_eq_getD_getElem?, Array.getElem?_setIfInBounds]
  split
  · rename_i same
    subst same
    split
    · exact .inr ⟨rfl, rfl⟩
    · rename_i out
      exact .inl (by simp [Nat.le_of_not_lt out])
  · exact .inl rfl

/-- How far a collection is known. -/
inductive Mark where
  | unseen
  /-- It has been looked at, and perhaps it holds itself. -/
  | seen
  | made (d : Data)

def Mark.data : Mark → Data
  | made d => d
  | _ => .endless

def Mark.isMade : Mark → Bool
  | made _ => true
  | _ => false

abbrev Marks := Array Mark

def Marks.mark (ms : Marks) (id : NodeId) : Mark := ms.getD id .seen

/-- Makes a collection, and before it those it holds. One that is met again on the way holds itself, and neither it
nor what holds it is made. -/
def make (h : Heap) : Nat → Marks → NodeId → Marks
  | 0, ms, _ => ms
  | fuel + 1, ms, id =>
    match ms.mark id with
    | .unseen =>
      let inner := (h.cell id).collections
      let ms := inner.foldl (make h fuel) (ms.setIfInBounds id .seen)
      if inner.all fun i => (ms.mark i).isMade then
        ms.setIfInBounds id (.made ((h.cell id).data fun i => (ms.mark i).data))
      else ms
    | _ => ms

/-- How deep is looked into data without end. No record has fields so far inside. -/
def horizon : Nat := 32

/-- The collections down to a depth. Those that have been made are whole. -/
def unrolled (h : Heap) (ms : Marks) : Nat → Array Data
  | 0 => ms.map Mark.data
  | depth + 1 =>
    let inner := unrolled h ms depth
    ms.mapIdx fun id m => match m with
      | .made d => d
      | _ => (h.cell id).data fun i => inner.getD i .endless

/-- The data of what a node has been built to. -/
def data (h : Heap) (r : Ref) : Data :=
  match r with
  | .collection id =>
    let ms := h.make (h.cells.size + 1) (Array.replicate h.cells.size .unseen) id
    match ms.mark id with
    | .made d => d
    | _ => (h.unrolled ms horizon).getD id .endless
  | r => r.data fun _ => .endless

end Heap

end InstallWatch.Yaml
