import Mathlib
import InstallWatch.Proofs.Yaml.Merging

/-!
Where building a document goes astray: at a scalar that does not fit its tag, at a mapping that is to be a scalar, or at a
chain of merges for which there is no room. Building changes the nodes of a document only where merge keys are, so the
reason is in the document as it was read.
-/

namespace InstallWatch.Yaml
open Scalar

/-- A node that its tag does not fit. -/
inductive Graph.MisfitAt (g : Graph) (id : NodeId) : Prop where
  | scalar (t : Tag) (s : String) (node : g.node id = .scalar t s) (misfit : Misfit t s) : g.MisfitAt id
  | mapping (t : Tag) (es : List NodeEntry) (node : g.node id = .mapping t es)
      (tag : isScalarTag t = true ∨ t = Tag.value) : g.MisfitAt id

/-- Why the data of a document is not made, in a way that nobody expects. -/
inductive Graph.Strays [Room] (g : Graph) : Prop where
  | misfit (id : NodeId) (misfit : g.MisfitAt id)
  /-- The merge keys of mappings lead on as far as there is room for merging. -/
  | chain (id : NodeId) (on : g.MergesOn Room.merges id)

/-- A misfit that shows later has been there from the beginning. -/
theorem Graph.MisfitAt.of_becomes {g g' : Graph} {id : NodeId} (h : g.Becomes g') (misfit : g'.MisfitAt id) :
    g.MisfitAt id := by
  have node := h id
  cases misfit with
  | scalar t' s node' misfit =>
    rw [node'] at node
    generalize before : g.node id = n at node
    cases node with
    | scalar t _ _ tag =>
      rcases tag with rfl | ⟨_, rfl⟩
      · exact .scalar t' s before misfit
      · exact absurd misfit (not_misfit_str s)
  | mapping t' es' node' tag' =>
    rw [node'] at node
    generalize before : g.node id = n at node
    cases node with
    | mapping t _ es _ tag =>
      rcases tag with rfl | ⟨value, _⟩
      · exact .mapping t' es before tag'
      · exact .mapping t es before (.inr value)

/-! ## Steps of building -/

theorem Shape.ofTag?_eq_map_iff {t : Tag} : Shape.ofTag? t = some .map ↔ t = Tag.map := by
  constructor
  · intro h
    unfold Shape.ofTag? at h
    split at h
    · cases h
    split at h
    · assumption
    repeat' split at h
    all_goals cases h
  · rintro rfl
    decide +kernel

/-- How far the building of a document has come. Its nodes are merged only, and mappings are made of mappings. -/
structure Building.Follows (b : Building) (g : Graph) : Prop where
  merged : g.MergedTo b.graph
  mapped : ∀ id es, b.heap.cell id = .map es → g.tag id = Tag.map

theorem Building.follows_start (g : Graph) : (Building.start g).Follows g where
  merged := .refl g
  mapped id es cell := by
    rw [Building.start, Heap.cell_ofSize] at cell
    cases cell

theorem Building.Follows.set {g : Graph} {b : Building} (h : b.Follows g) {id : NodeId} {c : Cell}
    (mapped : ∀ es, c = .map es → g.tag id = Tag.map) :
    Building.Follows { b with heap := b.heap.set id c } g := by
  refine ⟨h.merged, fun other es cell => ?_⟩
  rcases b.heap.cell_set id other c with same | ⟨rfl, changed⟩
  · exact h.mapped other es (same ▸ cell)
  · exact mapped es (changed ▸ cell)

variable [Room]

namespace Building

section
variable {g : Graph} {b : Building}

theorem scalar_traces (h : b.Follows g) {id : NodeId} (scalar : isScalarTag (b.graph.tag id) = true) :
    Traces g.Strays (fun _ => True) (b.scalar id (b.graph.tag id)) := by
  refine ⟨fun _ _ => trivial, fun astray => .misfit id (.of_becomes h.merged.becomes ?_)⟩
  unfold Building.scalar Graph.tag at astray
  unfold Graph.tag at scalar
  cases hn : b.graph.node id with
  | scalar t s =>
    rw [hn] at astray
    rcases goesAstray_bind_iff.mp astray with astray | ⟨s', hs, astray⟩
    · simp only [Graph.scalarText, hn, goesAstray_ok_iff] at astray
    · have same : s = s' := by simpa only [Graph.scalarText, hn, Except.ok.injEq] using hs
      subst same
      rcases goesAstray_bind_iff.mp astray with astray | ⟨d, _, astray⟩
      · exact .scalar t s hn (read_goesAstray_iff.mp astray)
      · split at astray
        · split at astray
          · exact absurd astray goesAstray_ok_iff.mp
          · exact absurd astray goesAstray_ok_iff.mp
        · exact absurd astray goesAstray_ok_iff.mp
  | sequence t items =>
    rw [hn] at astray
    rcases goesAstray_bind_iff.mp astray with astray | ⟨s', hs, _⟩
    · simp only [Graph.scalarText, hn, goesAstray_error_iff] at astray
      cases astray
    · simp only [Graph.scalarText, hn, reduceCtorEq] at hs
  | mapping t es =>
    -- its text is that of another node, so the mapping itself is to blame whatever the flaw is
    rw [hn] at scalar
    exact .mapping t es hn (.inl scalar)

theorem build_traces (h : b.Follows g) (id : NodeId) :
    Traces g.Strays (fun r => r.2.Follows g) (b.build id) := by
  unfold build
  split
  · exact .pure h
  · dsimp only
    split
    · rename_i scalar
      exact (scalar_traces h scalar).bind fun r _ => .pure ⟨h.merged, h.mapped⟩
    · split
      · exact .pure ⟨h.merged, h.mapped⟩
      · exact .malformed

theorem buildItems_traces (h : b.Follows g) (ids : List NodeId) :
    Traces g.Strays (fun r => r.2.Follows g) (b.buildItems ids) := by
  refine .bind (.foldlM (fun p id _ h => ?_) h) fun r h => .pure h
  exact (build_traces h id).bind fun r h => .pure h

theorem buildEntry_traces (h : b.Follows g) (e : NodeEntry) :
    Traces g.Strays (fun r => r.2.Follows g) (b.buildEntry e) := by
  refine (build_traces h e.1).bind fun k h => ?_
  dsimp only
  split
  · exact .malformed
  · exact (build_traces h e.2).bind fun v h => .pure h

theorem buildEntries_traces (h : b.Follows g) (id : NodeId) :
    Traces g.Strays (fun r => r.2.Follows g) (b.buildEntries id) := by
  unfold buildEntries
  split
  · have merges := (@Graph.mergeFrom_traces _ (b.entryCount + 1) _ _ id _ h.merged g.unmerging_nil).imp (Graph.Strays.chain id)
    refine merges.bind fun g' merged => .foldlM (fun p e _ h => ?_) ⟨merged.1, h.mapped⟩
    exact (buildEntry_traces h e).bind fun r h => .pure h
  · exact .malformed

theorem buildPairs_traces (h : b.Follows g) (ids : List NodeId) :
    Traces g.Strays (fun r => r.2.Follows g) (b.buildPairs ids) := by
  refine .bind (.foldlM (fun p id _ h => ?_) h) fun r h => .pure h
  dsimp only
  split
  · refine (build_traces h _).bind fun k h => ?_
    exact (build_traces h _).bind fun v h => .pure h
  · exact .malformed

theorem fill_traces (h : b.Follows g) (id : NodeId) :
    Traces g.Strays (fun b => b.Follows g) (b.fill id) := by
  unfold fill
  split
  · exact (buildItems_traces h _).bind fun r h => .pure (h.set (by simp))
  · exact (buildPairs_traces h _).bind fun r h => .pure (h.set (by simp))
  · have shape : Shape.ofTag? (b.graph.tag id) = some .map := by assumption
    have tag : g.tag id = Tag.map := h.merged.becomes.tag_eq_map (Shape.ofTag?_eq_map_iff.mp shape)
    exact (buildEntries_traces h id).bind fun r h => .pure (h.set fun _ _ => tag)
  · exact (buildEntries_traces h id).bind fun r h => .pure (h.set (by simp))
  · exact .malformed

theorem fillAll_traces (rounds : Nat) (h : b.Follows g) :
    Traces g.Strays (fun b => b.Follows g) (fillAll rounds b) := by
  induction rounds generalizing b with
  | zero => exact .pure h
  | succ rounds ih =>
    unfold fillAll
    split
    · exact .pure h
    · refine .bind (.foldlM (fun b id _ h => fill_traces h id) ?_) fun b h => ih h
      exact ⟨h.merged, h.mapped⟩

end

end Building

theorem Document.build_root_traces (d : Document) :
    Traces d.graph.Strays (fun r => r.2.Follows d.graph) ((Building.start d.graph).build d.root) :=
  Building.build_traces (Building.follows_start d.graph) d.root

/-- A document goes astray for a reason that was in it from the beginning. -/
theorem Document.data_goesAstray {d : Document} (h : GoesAstray d.data) : d.graph.Strays := by
  have traces : Traces d.graph.Strays (fun _ => True) d.data := by
    refine d.build_root_traces.bind fun r follows => ?_
    exact (Building.fillAll_traces _ follows).bind fun b _ => .pure trivial
  exact traces.astray h

/-! ## Texts -/

/-- The documents of a text that may hold one only, and what is wrong with the text. -/
def soleDocuments (text : List Char) : List Document × Option Stop :=
  match documentOf text with
  | .error stop => ([], some stop)
  | .ok d => (d.toList, none)

/-- Why documents are not read, in a way that nobody expects: the text is too much, or one of them goes astray. -/
inductive Astray (documents : List Document) (stop : Option Stop) : Prop where
  | hugeCharacter (huge : stop = some .hugeCharacter)
  | tooDeep (deep : stop = some .tooDeep)
  | strays (d : Document) (mem : d ∈ documents) (strays : d.graph.Strays)

theorem astray_of_stop {stop : Stop} (stray : IsStray (.text stop)) (ds : List Document) : Astray ds (some stop) := by
  cases stray with
  | hugeCharacter => exact .hugeCharacter rfl
  | tooDeep => exact .tooDeep rfl

theorem readOne_astray {text : List Char} {y : Fault} (h : readOne text = .error y) (stray : IsStray y) :
    Astray (soleDocuments text).1 (soleDocuments text).2 := by
  unfold readOne at h
  unfold soleDocuments
  cases hd : documentOf text with
  | error stop =>
    rw [hd] at h
    cases h
    exact astray_of_stop stray []
  | ok found =>
    cases found with
    | none => simp [hd] at h
    | some d =>
      cases hr : d.data with
      | ok data => simp [hd, hr, Except.mapError] at h
      | error flaw =>
        simp only [hd, hr, Except.mapError, Except.error.injEq] at h
        subst h
        exact .strays d (List.mem_singleton_self d) (d.data_goesAstray ⟨flaw, hr, stray⟩)

theorem dataOf_astray {documents : List Document} {stop : Option Stop} {y : Fault}
    (h : (dataOf documents stop).2 = some y) (stray : IsStray y) : Astray documents stop := by
  induction documents with
  | nil =>
    obtain ⟨s, rfl, rfl⟩ := Option.map_eq_some_iff.mp h
    exact astray_of_stop stray []
  | cons d documents ih =>
    unfold dataOf at h
    cases hr : d.data with
    | error flaw =>
      simp only [hr, Option.some.injEq] at h
      subst h
      exact .strays d List.mem_cons_self (d.data_goesAstray ⟨flaw, hr, stray⟩)
    | ok data =>
      rw [hr] at h
      cases ih h with
      | hugeCharacter huge => exact .hugeCharacter huge
      | tooDeep deep => exact .tooDeep deep
      | strays d' mem strays => exact .strays d' (List.mem_cons_of_mem d mem) strays

theorem readAll_astray {text : List Char} {data : List Data} {y : Fault} (h : readAll text = (data, some y))
    (stray : IsStray y) : Astray (documentsOf text).1 (documentsOf text).2 :=
  dataOf_astray (congrArg Prod.snd h) stray

end InstallWatch.Yaml
