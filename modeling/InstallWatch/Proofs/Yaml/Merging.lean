import Mathlib
import InstallWatch.Proofs.Yaml.Stray

/-!
What merging makes of the nodes of a document. Tags and entries change, but a merge key that is there at any time was
there at first. So if there is not enough room to merge a mapping, then the document as it was read has a chain of
mappings that name each other in their merge keys, as long as the room.
-/

namespace InstallWatch.Yaml

/-! ## Steps that may go astray -/

/-- A step whose results are all of a kind, and that goes astray for one reason only. -/
structure Traces {α : Type} (reason : Prop) (P : α → Prop) (r : Except Flaw α) : Prop where
  ok : ∀ a, r = .ok a → P a
  astray : GoesAstray r → reason

namespace Traces

variable {α β : Type} {reason : Prop} {P : α → Prop} {Q : β → Prop}

theorem pure {a : α} (h : P a) : Traces reason P (.ok a) where
  ok := by
    intro b hb
    cases hb
    exact h
  astray astray := (goesAstray_ok_iff.mp astray).elim

theorem malformed : Traces reason P (.error .malformed) where
  ok := by
    intro b hb
    cases hb
  astray := by
    intro astray
    cases goesAstray_error_iff.mp astray

theorem bind {r : Except Flaw α} {f : α → Except Flaw β} (h : Traces reason P r)
    (next : ∀ a, P a → Traces reason Q (f a)) : Traces reason Q (r >>= f) where
  ok := by
    intro b hb
    obtain ⟨a, ha, hb⟩ := Results.bind_eq_ok_iff.mp hb
    exact (next a (h.ok a ha)).ok b hb
  astray := by
    intro astray
    rcases goesAstray_bind_iff.mp astray with astray | ⟨a, ha, astray⟩
    · exact h.astray astray
    · exact (next a (h.ok a ha)).astray astray

theorem foldlM {f : β → α → Except Flaw β} {as : List α} (step : ∀ b, ∀ a ∈ as, Q b → Traces reason Q (f b a)) {b : β}
    (h : Q b) : Traces reason Q (as.foldlM f b) := by
  induction as generalizing b with
  | nil => exact .pure h
  | cons a as ih =>
    rw [List.foldlM_cons]
    refine (step b a List.mem_cons_self h).bind fun c hc => ?_
    exact ih (fun b' a' mem => step b' a' (List.mem_cons_of_mem a mem)) hc

theorem imp {r : Except Flaw α} {reason' : Prop} (h : Traces reason P r) (becauseOf : reason → reason') :
    Traces reason' P r := ⟨h.ok, fun astray => becauseOf (h.astray astray)⟩

end Traces

/-! ## What becomes of nodes -/

/-- Merging may make text of a value key, and leaves all other tags as they are. -/
def Settles (t t' : Tag) : Prop := t' = t ∨ t = Tag.value ∧ t' = Tag.str

/-- What may become of a node while a document is built. Only mappings get other entries. -/
inductive Node.Becomes : Node → Node → Prop where
  | scalar (t t' : Tag) (s : String) (tag : Settles t t') : Becomes (.scalar t s) (.scalar t' s)
  | sequence (t t' : Tag) (items : List NodeId) (tag : Settles t t') : Becomes (.sequence t items) (.sequence t' items)
  | mapping (t t' : Tag) (es es' : List NodeEntry) (tag : Settles t t') : Becomes (.mapping t es) (.mapping t' es')

def Graph.Becomes (g g' : Graph) : Prop := ∀ id, (g.node id).Becomes (g'.node id)

theorem Settles.trans {t t' t'' : Tag} (h : Settles t t') (h' : Settles t' t'') : Settles t t'' := by
  rcases h with rfl | ⟨value, rfl⟩
  · exact h'
  · rcases h' with rfl | ⟨_, rfl⟩
    · exact .inr ⟨value, rfl⟩
    · exact .inr ⟨value, rfl⟩

namespace Node

theorem Becomes.refl (n : Node) : n.Becomes n := by
  cases n with
  | scalar t s => exact .scalar t t s (.inl rfl)
  | sequence t items => exact .sequence t t items (.inl rfl)
  | mapping t es => exact .mapping t t es es (.inl rfl)

theorem Becomes.trans {n n' n'' : Node} (h : n.Becomes n') (h' : n'.Becomes n'') : n.Becomes n'' := by
  cases h with
  | scalar t _ s tag =>
    cases h' with
    | scalar _ t'' _ tag' => exact .scalar t t'' s (tag.trans tag')
  | sequence t _ items tag =>
    cases h' with
    | sequence _ t'' _ tag' => exact .sequence t t'' items (tag.trans tag')
  | mapping t _ es _ tag =>
    cases h' with
    | mapping _ t'' _ es'' tag' => exact .mapping t t'' es es'' (tag.trans tag')

theorem becomes_withEntries (n : Node) (es : List NodeEntry) : n.Becomes (n.withEntries es) := by
  cases n with
  | mapping t own => exact .mapping t t own es (.inl rfl)
  | _ => exact .refl _

theorem becomes_withTag {n : Node} (value : n.tag = Tag.value) : n.Becomes (n.withTag Tag.str) := by
  cases n with
  | scalar t s => exact .scalar t Tag.str s (.inr ⟨value, rfl⟩)
  | sequence t items => exact .sequence t Tag.str items (.inr ⟨value, rfl⟩)
  | mapping t es => exact .mapping t Tag.str es es (.inr ⟨value, rfl⟩)

end Node

namespace Graph

theorem Becomes.refl (g : Graph) : g.Becomes g := fun _ => .refl _

theorem Becomes.trans {g g' g'' : Graph} (h : g.Becomes g') (h' : g'.Becomes g'') : g.Becomes g'' :=
  fun id => (h id).trans (h' id)

theorem node_update (g : Graph) (id other : NodeId) (f : Node → Node) :
    (g.update id f).node other = g.node other ∨ (g.update id f).node other = f (g.node id) ∧ id = other := by
  simp only [node, update, Array.getD_eq_getD_getElem?, Array.getElem?_modify]
  split
  · rename_i same
    subst same
    cases g.nodes[id]? with
    | none => exact .inl rfl
    | some n => exact .inr ⟨rfl, rfl⟩
  · exact .inl rfl

theorem becomes_update {g : Graph} {id : NodeId} {f : Node → Node} (h : (g.node id).Becomes (f (g.node id))) :
    g.Becomes (g.update id f) := by
  intro other
  rcases g.node_update id other f with same | ⟨changed, rfl⟩
  · rw [same]
    exact .refl _
  · rw [changed]
    exact h

theorem becomes_settleKey (g : Graph) (e : NodeEntry) : g.Becomes (g.settleKey e) := by
  unfold settleKey
  split
  · rename_i value
    exact becomes_update (Node.becomes_withTag value)
  · exact .refl g

theorem becomes_foldl_settleKey (es : List NodeEntry) (g : Graph) : g.Becomes (es.foldl settleKey g) := by
  induction es generalizing g with
  | nil => exact .refl g
  | cons e es ih => exact (becomes_settleKey g e).trans (ih _)

theorem Becomes.settles {g g' : Graph} (h : g.Becomes g') (id : NodeId) : Settles (g.tag id) (g'.tag id) := by
  have node := h id
  unfold tag
  generalize g.node id = n at node
  generalize g'.node id = n' at node
  cases node with
  | scalar _ _ _ tag => exact tag
  | sequence _ _ _ tag => exact tag
  | mapping _ _ _ _ tag => exact tag

theorem Becomes.tag_eq_merge_iff {g g' : Graph} (h : g.Becomes g') (id : NodeId) :
    g'.tag id = Tag.merge ↔ g.tag id = Tag.merge := by
  rcases h.settles id with same | ⟨value, str⟩
  · rw [same]
  · rw [value, str]
    decide +kernel

theorem Becomes.tag_eq_map {g g' : Graph} (h : g.Becomes g') {id : NodeId} (map : g'.tag id = Tag.map) :
    g.tag id = Tag.map := by
  rcases h.settles id with same | ⟨_, str⟩
  · rw [← same, map]
  · rw [map] at str
    exact absurd str (by decide +kernel)

/-! ## Merge keys -/

/-- A merge key of a mapping names another node, alone or in a list. -/
inductive Merges (g : Graph) (id other : NodeId) : Prop where
  | alone (e : NodeEntry) (mem : e ∈ g.entries id) (key : g.tag e.1 = Tag.merge) (named : e.2 = other)
  | listed (e : NodeEntry) (mem : e ∈ g.entries id) (key : g.tag e.1 = Tag.merge) (t : Tag) (items : List NodeId)
      (list : g.node e.2 = .sequence t items) (named : other ∈ items)

/-- From a mapping on, so many mappings name each other in their merge keys. -/
def MergesOn (g : Graph) : Nat → NodeId → Prop
  | 0, _ => True
  | n + 1, id => ∃ other, g.Merges id other ∧ g.MergesOn n other

/-- None of the entries has a merge key. -/
def Unmerging (g : Graph) (es : List NodeEntry) : Prop := ∀ e ∈ es, g.tag e.1 ≠ Tag.merge

theorem unmerging_nil (g : Graph) : g.Unmerging [] := by
  simp [Unmerging]

/-- The nodes after some merging. Only merge keys that were there at first are left. -/
structure MergedTo (g g' : Graph) : Prop where
  becomes : g.Becomes g'
  keys : ∀ id, ∀ e ∈ g'.entries id, g'.tag e.1 = Tag.merge → e ∈ g.entries id

theorem MergedTo.refl (g : Graph) : g.MergedTo g := ⟨.refl g, fun _ _ mem _ => mem⟩

theorem takeMerge?_eq_none_iff {g : Graph} {es : List NodeEntry} : g.takeMerge? es = none ↔ g.Unmerging es := by
  unfold Unmerging
  induction es with
  | nil => simp [takeMerge?]
  | cons e es ih =>
    unfold takeMerge?
    split
    · simp [*]
    · simp [*]

theorem mem_of_takeMerge? {g : Graph} {es rest : List NodeEntry} {value : NodeId}
    (h : g.takeMerge? es = some (value, rest)) :
    (∃ e ∈ es, g.tag e.1 = Tag.merge ∧ e.2 = value) ∧ ∀ e ∈ rest, e ∈ es := by
  induction es generalizing value rest with
  | nil => cases h
  | cons e es ih =>
    unfold takeMerge? at h
    split at h
    · rename_i key
      cases h
      exact ⟨⟨e, List.mem_cons_self, key, rfl⟩, fun _ mem => List.mem_cons_of_mem e mem⟩
    · obtain ⟨⟨v, r⟩, hr, he⟩ := Option.map_eq_some_iff.mp h
      cases he
      obtain ⟨⟨e', mem, key, named⟩, kept⟩ := ih hr
      refine ⟨⟨e', List.mem_cons_of_mem e mem, key, named⟩, fun x hx => ?_⟩
      rcases List.mem_cons.mp hx with rfl | hx
      · exact List.mem_cons_self
      · exact List.mem_cons_of_mem e (kept x hx)

/-- Other entries are those of the one mapping that gets them. -/
theorem mem_entries_update {g : Graph} {id other : NodeId} {es : List NodeEntry} {e : NodeEntry}
    (mem : e ∈ (g.update id (Node.withEntries es)).entries other) : e ∈ g.entries other ∨ id = other ∧ e ∈ es := by
  unfold Graph.entries at *
  rcases g.node_update id other (Node.withEntries es) with same | ⟨changed, rfl⟩
  · rw [same] at mem
    exact .inl mem
  · rw [changed] at mem
    cases node : g.node id with
    | mapping t own =>
      rw [node] at mem
      exact .inr ⟨rfl, mem⟩
    | scalar t s =>
      rw [node] at mem
      cases mem
    | sequence t items =>
      rw [node] at mem
      cases mem

theorem MergedTo.mem_of_key {g g' : Graph} (h : g.MergedTo g') {id : NodeId} {e : NodeEntry} (mem : e ∈ g'.entries id)
    (key : g.tag e.1 = Tag.merge) : e ∈ g.entries id :=
  h.keys id e mem ((h.becomes.tag_eq_merge_iff e.1).mpr key)

/-- A mapping may lose entries, and get entries without merge keys. -/
theorem MergedTo.update {g g' : Graph} (h : g.MergedTo g') {id : NodeId} {es : List NodeEntry}
    (known : ∀ e ∈ es, g.tag e.1 = Tag.merge → e ∈ g.entries id) : g.MergedTo (g'.update id (Node.withEntries es)) := by
  have becomes : g.Becomes (g'.update id (Node.withEntries es)) :=
    h.becomes.trans (becomes_update (Node.becomes_withEntries _ _))
  refine ⟨becomes, fun other e mem key => ?_⟩
  have key₀ := (becomes.tag_eq_merge_iff e.1).mp key
  rcases mem_entries_update mem with old | ⟨rfl, new⟩
  · exact h.mem_of_key old key₀
  · exact known e new key₀

theorem entries_foldl_settleKey (es : List NodeEntry) (g : Graph) (id : NodeId) :
    (es.foldl settleKey g).entries id = g.entries id := by
  induction es generalizing g with
  | nil => rfl
  | cons e es ih =>
    rw [List.foldl_cons, ih]
    unfold settleKey
    split
    · unfold Graph.entries
      rcases g.node_update e.1 id (Node.withTag Tag.str) with same | ⟨changed, rfl⟩
      · rw [same]
      · rw [changed]
        cases g.node e.1 <;> rfl
    · rfl

theorem MergedTo.settle {g g' : Graph} (h : g.MergedTo g') (es : List NodeEntry) :
    g.MergedTo (es.foldl settleKey g') where
  becomes := h.becomes.trans (becomes_foldl_settleKey es g')
  keys id e mem key := by
    rw [entries_foldl_settleKey] at mem
    exact h.keys id e mem (((becomes_foldl_settleKey es g').tag_eq_merge_iff e.1).mp key)

/-- Entries are put in front of a mapping. -/
theorem MergedTo.prepend {g g' : Graph} (h : g.MergedTo g') (id : NodeId) {merged : List NodeEntry}
    (front : g.Unmerging merged) : g.MergedTo (g'.prepend id merged) := by
  refine (h.settle (g'.entries id)).update fun e mem key => ?_
  rcases List.mem_append.mp mem with mem | mem
  · exact absurd key (front e mem)
  · exact h.mem_of_key mem key

theorem mem_entries_prepend {g : Graph} {id : NodeId} {merged : List NodeEntry} {e : NodeEntry}
    (mem : e ∈ (g.prepend id merged).entries id) : e ∈ merged ∨ e ∈ g.entries id := by
  rcases mem_entries_update mem with mem | ⟨_, mem⟩
  · rw [entries_foldl_settleKey] at mem
    exact .inr mem
  · exact List.mem_append.mp mem

/-- Merging a mapping leaves it without merge keys. If the room is not enough, there is a chain of mappings as long. -/
theorem mergeFrom_traces {g₀ : Graph} {fuel room : Nat} {g : Graph} {id : NodeId} {merged : List NodeEntry}
    (h : g₀.MergedTo g) (front : g₀.Unmerging merged) :
    Traces (g₀.MergesOn room id) (fun g' => g₀.MergedTo g' ∧ g₀.Unmerging (g'.entries id))
      (mergeFrom fuel room g id merged) := by
  induction fuel generalizing room g id merged with
  | zero => exact .malformed
  | succ fuel ih =>
    cases room with
    | zero =>
      refine ⟨fun g' ok => ?_, fun _ => trivial⟩
      cases ok
    | succ room =>
      unfold mergeFrom
      split
      · rename_i done
        refine .pure ⟨h.prepend id front, fun e mem => ?_⟩
        rcases mem_entries_prepend mem with mem | mem
        · exact front e mem
        · rw [Ne, ← h.becomes.tag_eq_merge_iff]
          exact takeMerge?_eq_none_iff.mp done e mem
      · rename_i value rest taken
        obtain ⟨⟨e, mem, key, rfl⟩, kept⟩ := mem_of_takeMerge? taken
        have key₀ := (h.becomes.tag_eq_merge_iff e.1).mp key
        have mem₀ := h.keys id e mem key
        have cut : g₀.MergedTo (g.update id (Node.withEntries rest)) :=
          h.update fun e mem key => h.mem_of_key (kept e mem) key
        dsimp only
        generalize g.update id (Node.withEntries rest) = g₁ at cut
        split
        · exact .malformed
        · refine ((ih cut g₀.unmerging_nil).imp fun on => ?_).bind fun g₂ merges => ?_
          · exact ⟨e.2, .alone e mem₀ key₀ rfl, on⟩
          · exact ih merges.1 (List.forall_mem_append.mpr ⟨front, merges.2⟩)
        · rename_i t items list
          have list₀ : ∃ t₀, g₀.node e.2 = .sequence t₀ items := by
            have node := cut.becomes e.2
            rw [list] at node
            generalize g₀.node e.2 = n at node
            cases node with
            | sequence t₀ => exact ⟨t₀, rfl⟩
          obtain ⟨t₀, list₀⟩ := list₀
          refine Traces.bind (P := fun r => g₀.MergedTo r.1 ∧ g₀.Unmerging r.2) ?_ fun r merges => ?_
          · refine .foldlM (fun r item named merges => ?_) ⟨cut, g₀.unmerging_nil⟩
            split
            · refine ((ih merges.1 g₀.unmerging_nil).imp fun on => ?_).bind fun g₂ merges₂ => ?_
              · exact ⟨item, .listed e mem₀ key₀ t₀ items list₀ named, on⟩
              · exact .pure ⟨merges₂.1, List.forall_mem_append.mpr ⟨merges₂.2, merges.2⟩⟩
            · exact .malformed
          · exact ih merges.1 (List.forall_mem_append.mpr ⟨front, merges.2⟩)

end Graph

end InstallWatch.Yaml
