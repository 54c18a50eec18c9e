import InstallWatch.Yaml.Token

/-!
The nodes of a YAML document: scalars, sequences and mappings, each with its tag. Nodes have numbers, by which
collections name what they hold. So an alias is the node it stands for, and a collection may hold itself.
-/

namespace InstallWatch.Yaml

/-- A node's tag as a URI, or as a private name behind an exclamation mark. -/
abbrev Tag := String

namespace Tag

def core (name : String) : Tag := "tag:yaml.org,2002:" ++ name

def nullTag : Tag := core "null"
def bool : Tag := core "bool"
def int : Tag := core "int"
def float : Tag := core "float"
def binary : Tag := core "binary"
def timestamp : Tag := core "timestamp"
def omap : Tag := core "omap"
def pairs : Tag := core "pairs"
def set : Tag := core "set"
def str : Tag := core "str"
def seq : Tag := core "seq"
def map : Tag := core "map"
def merge : Tag := core "merge"
def value : Tag := core "value"

end Tag

/-- The number of a node in its document. -/
abbrev NodeId := Nat

/-- A key and its value in a mapping. -/
abbrev NodeEntry := NodeId × NodeId

inductive Node where
  | scalar (tag : Tag) (text : String)
  | sequence (tag : Tag) (items : List NodeId)
  | mapping (tag : Tag) (entries : List NodeEntry)
deriving DecidableEq, Repr

namespace Node

def tag : Node → Tag
  | scalar t _ => t
  | sequence t _ => t
  | mapping t _ => t

def withTag (t : Tag) : Node → Node
  | scalar _ s => scalar t s
  | sequence _ items => sequence t items
  | mapping _ es => mapping t es

def entries : Node → List NodeEntry
  | mapping _ es => es
  | _ => []

/-- The same mapping with other entries. -/
def withEntries (es : List NodeEntry) : Node → Node
  | mapping t _ => mapping t es
  | n => n

/-- The null that stands where a node is left out. -/
def missing : Node := scalar Tag.nullTag ""

end Node

/-- Nodes by their numbers. -/
structure Graph where
  nodes : Array Node

namespace Graph

def empty : Graph := ⟨#[]⟩

def node (g : Graph) (id : NodeId) : Node := g.nodes.getD id .missing

def tag (g : Graph) (id : NodeId) : Tag := (g.node id).tag

def entries (g : Graph) (id : NodeId) : List NodeEntry := (g.node id).entries

/-- One node more; its number is the size so far. -/
def push (g : Graph) (n : Node) : Graph := ⟨g.nodes.push n⟩

def set (g : Graph) (id : NodeId) (n : Node) : Graph := ⟨g.nodes.setIfInBounds id n⟩

def update (g : Graph) (id : NodeId) (f : Node → Node) : Graph := ⟨g.nodes.modify id f⟩

def size (g : Graph) : Nat := g.nodes.size

/-- How many entries all mappings have together. -/
def entryCount (g : Graph) : Nat := g.nodes.foldl (fun n node => n + node.entries.length) 0

theorem node_push_self (g : Graph) (n : Node) : (g.push n).node g.size = n := by
  simp [push, node, size]

theorem node_push_of_lt {g : Graph} {id : NodeId} (h : id < g.size) (n : Node) :
    (g.push n).node id = g.node id := by
  have h : id < g.nodes.size := h
  simp [push, node, Array.getD, Array.getElem_push, h, Nat.lt_succ_of_lt h]

end Graph

/-- How far inside documents are read. A reader goes one call deeper for each step inside, and its calls have so much
room and no more. -/
class Room where
  /-- How many nodes may be inside each other. -/
  nodes : Nat
  /-- How many mappings may be merged, one for the sake of the other. -/
  merges : Nat
  /-- How many mappings may lead to the text of a scalar. -/
  texts : Nat

/-- The room where calls have the usual room, and few of them have been made before. -/
@[reducible]
def Room.usual : Room := ⟨480, 965, 965⟩

/-- A document: its nodes, and which of them is the outermost. -/
structure Document where
  graph : Graph
  root : NodeId

end InstallWatch.Yaml
