import InstallWatch.Yaml.Heap
import InstallWatch.Yaml.Merge
import InstallWatch.Yaml.ScalarValue

/-!
Building the data that a document's nodes stand for. Scalars are built where they are met; collections are built
empty, and filled one after the other in the order in which they were met. So of two flaws the one in the shallower
collection counts, and merge keys of one collection are gone before a deeper one is looked at.
-/

namespace InstallWatch.Yaml

/-- How far the building has come. -/
structure Building where
  graph : Graph
  /-- How many entries the mappings had at first. -/
  entryCount : Nat
  built : Array (Option Ref)
  heap : Heap
  /-- The collections that are still empty, the last one first. -/
  waiting : List NodeId

/-- The collections that tags ask for. -/
inductive Shape where
  | list
  | map
  | set
  | pairs
deriving DecidableEq

def Shape.ofTag? (t : Tag) : Option Shape :=
  if t = Tag.seq then some .list
  else if t = Tag.map then some .map
  else if t = Tag.set then some .set
  else if t = Tag.pairs ∨ t = Tag.omap then some .pairs
  else none

/-- The tags of scalars. -/
def isScalarTag (t : Tag) : Bool :=
  [Tag.nullTag, Tag.bool, Tag.int, Tag.float, Tag.binary, Tag.timestamp, Tag.str].contains t

/-- The text of a node where a scalar is wanted: a mapping names one under its value key, perhaps in several
steps, for which there has to be room. -/
def Graph.scalarText (g : Graph) (room : Nat) (id : NodeId) : Except Flaw String :=
  match g.node id with
  | .scalar _ s => .ok s
  | .sequence _ _ => .error .malformed
  | .mapping _ es => match es.find? fun e => g.tag e.1 = Tag.value, room with
    | some _, 0 => .error .tooFar
    | some e, room + 1 => g.scalarText room e.2
    | none, _ => .error .malformed

variable [Room]

namespace Building

def start (g : Graph) : Building :=
  ⟨g, g.entryCount, Array.replicate g.size none, .ofSize g.size, []⟩

/-- What a node with the tag of a scalar is. -/
def scalar (b : Building) (id : NodeId) (t : Tag) : Except Flaw Ref := do
  let s ← b.graph.scalarText Room.texts id
  match b.graph.node id with
  | .scalar _ _ => pure ()
  | _ => if t = Tag.timestamp then throw .timeInMapping
  match ← Scalar.read t s with
  | .float x =>
    if x.isNaN then return .noNumber (if Scalar.isNoNumberWord s then none else some id)
    else return .scalar (.float x)
  | d => return .scalar d

/-- What a node is. A node is built once, and a collection waits to be filled. -/
def build (b : Building) (id : NodeId) : Except Flaw (Ref × Building) :=
  match b.built.getD id none with
  | some r => .ok (r, b)
  | none =>
    let t := b.graph.tag id
    if isScalarTag t then do
      let r ← b.scalar id t
      return (r, { b with built := b.built.setIfInBounds id (some r) })
    else if (Shape.ofTag? t).isSome then
      let r := Ref.collection id
      .ok (r, { b with built := b.built.setIfInBounds id (some r), waiting := id :: b.waiting })
    else .error .malformed

def buildItems (b : Building) (ids : List NodeId) : Except Flaw (List Ref × Building) := do
  let (rs, b) ← ids.foldlM (fun (rs, b) id => do
    let (r, b) ← build b id
    return (r :: rs, b)) (([] : List Ref), b)
  return (rs.reverse, b)

/-- Key and value of an entry. The key has to be one before its value is looked at. -/
def buildEntry (b : Building) (e : NodeEntry) : Except Flaw ((Ref × Ref) × Building) := do
  let (k, b) ← build b e.1
  if !k.isKey then throw .malformed
  let (v, b) ← build b e.2
  return ((k, v), b)

/-- The entries of a mapping, once its merge keys are gone. -/
def buildEntries (b : Building) (id : NodeId) : Except Flaw (List (Ref × Ref) × Building) :=
  match b.graph.node id with
  | .mapping _ _ => do
    let g ← b.graph.merge b.entryCount id
    (g.entries id).foldlM (fun (es, b) e => do
      let ((k, v), b) ← buildEntry b e
      return (Cell.put k v es, b)) (([] : List (Ref × Ref)), { b with graph := g })
  | _ => .error .malformed

/-- The pairs of a list, where every item has to be a mapping of one entry. -/
def buildPairs (b : Building) (ids : List NodeId) : Except Flaw (List (Ref × Ref) × Building) := do
  let (es, b) ← ids.foldlM (fun (es, b) id => do
    match b.graph.node id with
    | .mapping _ [e] =>
      let (k, b) ← build b e.1
      let (v, b) ← build b e.2
      return ((k, v) :: es, b)
    | _ => throw .malformed) (([] : List (Ref × Ref)), b)
  return (es.reverse, b)

/-- Fills a collection. -/
def fill (b : Building) (id : NodeId) : Except Flaw Building := do
  let (c, b) ← match Shape.ofTag? (b.graph.tag id), b.graph.node id with
    | some .list, .sequence _ ids => do
      let (rs, b) ← buildItems b ids
      pure (Cell.list rs, b)
    | some .pairs, .sequence _ ids => do
      let (es, b) ← buildPairs b ids
      pure (Cell.pairs es, b)
    | some .map, _ => do
      let (es, b) ← buildEntries b id
      pure (Cell.map es, b)
    | some .set, _ => do
      let (es, b) ← buildEntries b id
      pure (Cell.set (es.map (·.1)), b)
    | _, _ => throw .malformed
  return { b with heap := b.heap.set id c }

/-- Fills the collections that wait, and then those that have come to wait meanwhile. Each waits once, so there are
no more rounds than nodes. -/
def fillAll : Nat → Building → Except Flaw Building
  | 0, b => .ok b
  | rounds + 1, b =>
    match b.waiting with
    | [] => .ok b
    | ids => do
      let b ← ids.reverse.foldlM fill { b with waiting := [] }
      fillAll rounds b

end Building

/-- The data that a document stands for. -/
def Document.data (d : Document) : Except Flaw Data := do
  let (r, b) ← (Building.start d.graph).build d.root
  let b ← Building.fillAll (d.graph.size + 1) b
  return b.heap.data r

end InstallWatch.Yaml
