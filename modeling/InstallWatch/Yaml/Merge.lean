import InstallWatch.Yaml.Flaw
import InstallWatch.Yaml.Node

/-!
Merge keys: what they name is put in front of a mapping's own entries, and they go. A mapping may be named by a
merge key inside itself; it is then merged as far as it has got.
-/

namespace InstallWatch.Yaml.Graph

/-- The value of the first merge key, and the entries without it. -/
def takeMerge? (g : Graph) : List NodeEntry → Option (NodeId × List NodeEntry)
  | [] => none
  | e :: es =>
    if g.tag e.1 = Tag.merge then some (e.2, es)
    else (takeMerge? g es).map fun (value, rest) => (value, e :: rest)

/-- A value key that is a key like others is text. -/
def settleKey (g : Graph) (e : NodeEntry) : Graph :=
  if g.tag e.1 = Tag.value then g.update e.1 (Node.withTag Tag.str) else g

/-- Puts entries in front of a mapping's own ones, which all are entries like others. -/
def prepend (g : Graph) (id : NodeId) (merged : List NodeEntry) : Graph :=
  let own := g.entries id
  (own.foldl settleKey g).update id (Node.withEntries (merged ++ own))

/-- Takes the merge keys out of a mapping one by one, and then puts in front what they have named so far. A merge
key names a mapping, or several, of which the last comes first; nothing comes of one that names something else. What is
named is merged first, for which there has to be room. -/
def mergeFrom : Nat → (room : Nat) → Graph → NodeId → List NodeEntry → Except Flaw Graph
  | 0, _, _, _, _ => .error .malformed
  | _ + 1, 0, _, _, _ => .error .tooFar
  | fuel + 1, room + 1, g, id, merged =>
    match g.takeMerge? (g.entries id) with
    | none => .ok (g.prepend id merged)
    | some (value, rest) =>
      let g := g.update id (Node.withEntries rest)
      match g.node value with
      | .scalar _ _ => .error .malformed
      | .mapping _ _ => do
        let g ← mergeFrom fuel room g value []
        mergeFrom fuel (room + 1) g id (merged ++ g.entries value)
      | .sequence _ items => do
        let (g, found) ← items.foldlM (fun (g, found) item =>
          match g.node item with
          | .mapping _ _ => do
            let g ← mergeFrom fuel room g item []
            return (g, g.entries item ++ found)
          | _ => .error .malformed) (g, [])
        mergeFrom fuel (room + 1) g id (merged ++ found)

/-- The nodes with the merge keys of a mapping taken out. Every step takes out an entry, so there are no more steps
inside each other than the document had entries at first. -/
def merge [Room] (entryCount : Nat) (g : Graph) (id : NodeId) : Except Flaw Graph :=
  mergeFrom (entryCount + 1) Room.merges g id []

end InstallWatch.Yaml.Graph
