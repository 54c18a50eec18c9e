import Mathlib
import InstallWatch.Yaml.Document

/-!
Texts with more and with less room for nodes inside each other. Less room changes nothing, or it shows: what is read where
there is less room is what is read where there is more, or the reading stops at a node that is too deep.
-/

namespace InstallWatch.Yaml
open Composing

/-- The reader does what the other one does, or stops at a node that is too deep. -/
def Within {α : Type} (x y : Composing α) : Prop := ∀ p, x.run p = y.run p ∨ x.run p = .error .tooDeep

namespace Within

variable {α β : Type} {x y : Composing α}

theorem refl (x : Composing α) : Within x x := fun _ => .inl rfl

theorem tooDeep (y : Composing α) : Within (throw .tooDeep) y := fun _ => .inr rfl

theorem bind {f g : α → Composing β} (h : Within x y) (hf : ∀ a, Within (f a) (g a)) :
    Within (x >>= f) (y >>= g) := by
  intro p
  simp only [StateT.run_bind]
  rcases h p with same | deep
  · rw [same]
    cases y.run p with
    | error stop => exact .inl rfl
    | ok r => exact hf r.1 r.2
  · rw [deep]
    exact .inr rfl

/-- What has been done before is the same. -/
theorem after {f g : α → Composing β} (hf : ∀ a, Within (f a) (g a)) : Within (x >>= f) (x >>= g) := bind (refl x) hf

theorem after_unless {c : Prop} [Decidable c] {u : Composing Unit} {f g : Unit → Composing β}
    (hf : ∀ a, Within (f a) (g a)) :
    Within (if c then u >>= f else f ()) (if c then u >>= g else g ()) := by
  split
  · exact after hf
  · exact hf ()

end Within

/-- What the readers of nodes do when so many calls may be inside each other, with the one room and with the other. -/
structure AllWithin (handles : Handles) (fuel room room' : Nat) : Prop where
  node : ∀ place, Within (node handles fuel room place) (node handles fuel room' place)
  nodeUnless : ∀ place enders,
    Within (nodeUnless handles fuel room place enders) (nodeUnless handles fuel room' place enders)
  blockItems : ∀ done, Within (blockItems handles fuel room done) (blockItems handles fuel room' done)
  indentless : ∀ done, Within (indentless handles fuel room done) (indentless handles fuel room' done)
  blockEntries : ∀ done, Within (blockEntries handles fuel room done) (blockEntries handles fuel room' done)
  blockValue : Within (blockValue handles fuel room) (blockValue handles fuel room')
  flowItems : ∀ first done, Within (flowItems handles fuel room first done) (flowItems handles fuel room' first done)
  pairMapping : Within (pairMapping handles fuel room) (pairMapping handles fuel room')
  flowEntries : ∀ first done,
    Within (flowEntries handles fuel room first done) (flowEntries handles fuel room' first done)
  flowValue : ∀ enders, Within (flowValue handles fuel room enders) (flowValue handles fuel room' enders)

section
variable {handles : Handles} {fuel room room' : Nat}

/-- Where no call may be made, every reader refuses, whatever room there is. -/
theorem allWithin_zero : AllWithin handles 0 room room' := by
  constructor <;> intros <;>
    simp only [node, nodeUnless, blockItems, indentless, blockEntries, blockValue, flowItems, pairMapping, flowEntries,
      flowValue] <;>
    exact .refl refuse

theorem node_noRoom (handles : Handles) (fuel : Nat) (place : Place) :
    node handles (fuel + 1) 0 place = throw .tooDeep := by
  rw [node]

theorem pairMapping_noRoom (handles : Handles) (fuel : Nat) : pairMapping handles (fuel + 1) 0 = throw .tooDeep := by
  rw [pairMapping]

/-- A node takes some of the room, and what is inside it has the rest. -/
theorem node_within (h : AllWithin handles fuel room room') (place : Place) :
    Within (node handles (fuel + 1) (room + 1) place) (node handles (fuel + 1) (room' + 1) place) := by
  rw [node, node]
  refine .after fun t => ?_
  split
  · exact .refl _
  · refine .after fun r => .after fun tag => .after fun t => ?_
    split
    · exact .after fun id => (h.indentless []).bind fun ids => .refl _
    · exact .refl _
    · exact .after fun _ => .after fun id => (h.flowItems true []).bind fun ids => .refl _
    · exact .after fun _ => .after fun id => (h.flowEntries true []).bind fun es => .refl _
    · exact .after fun _ => .after fun id => (h.blockItems []).bind fun ids => .refl _
    · exact .after fun _ => .after fun id => (h.blockItems []).bind fun ids => .refl _
    · exact .after fun _ => .after fun id => (h.blockEntries []).bind fun es => .refl _
    · exact .after fun _ => .after fun id => (h.blockEntries []).bind fun es => .refl _
    · exact .refl _

theorem pairMapping_within (h : AllWithin handles fuel room room') :
    Within (pairMapping handles (fuel + 1) (room + 1)) (pairMapping handles (fuel + 1) (room' + 1)) := by
  rw [pairMapping, pairMapping]
  refine .after fun id => (h.nodeUnless _ _).bind fun k => ?_
  exact (h.flowValue _).bind fun v => .refl _

theorem nodeUnless_within (h : AllWithin handles fuel room room') (place : Place) (enders : List Token) :
    Within (nodeUnless handles (fuel + 1) room place enders) (nodeUnless handles (fuel + 1) room' place enders) := by
  rw [nodeUnless, nodeUnless]
  refine .after fun t => ?_
  split
  · exact .refl _
  · exact h.node place

theorem blockItems_within (h : AllWithin handles fuel room room') (done : List NodeId) :
    Within (blockItems handles (fuel + 1) room done) (blockItems handles (fuel + 1) room' done) := by
  rw [blockItems, blockItems]
  refine .after fun more => ?_
  split
  · exact (h.nodeUnless _ _).bind fun n => h.blockItems _
  · exact .refl _

theorem indentless_within (h : AllWithin handles fuel room room') (done : List NodeId) :
    Within (indentless handles (fuel + 1) room done) (indentless handles (fuel + 1) room' done) := by
  rw [indentless, indentless]
  refine .after fun more => ?_
  split
  · exact (h.nodeUnless _ _).bind fun n => h.indentless _
  · exact .refl _

theorem blockEntries_within (h : AllWithin handles fuel room room') (done : List NodeEntry) :
    Within (blockEntries handles (fuel + 1) room done) (blockEntries handles (fuel + 1) room' done) := by
  rw [blockEntries, blockEntries]
  refine .after fun more => ?_
  split
  · exact (h.nodeUnless _ _).bind fun k => h.blockValue.bind fun v => h.blockEntries _
  · exact .refl _

theorem blockValue_within (h : AllWithin handles fuel room room') :
    Within (blockValue handles (fuel + 1) room) (blockValue handles (fuel + 1) room') := by
  rw [blockValue, blockValue]
  refine .after fun more => ?_
  split
  · exact h.nodeUnless _ _
  · exact .refl _

theorem flowItems_within (h : AllWithin handles fuel room room') (first : Bool) (done : List NodeId) :
    Within (flowItems handles (fuel + 1) room first done) (flowItems handles (fuel + 1) room' first done) := by
  rw [flowItems, flowItems]
  refine .after fun ended => ?_
  split
  · exact .refl _
  · dsimp only
    refine .after_unless fun _ => .after fun pair => ?_
    split
    · exact h.pairMapping.bind fun id => h.flowItems false _
    · refine .after fun ended => ?_
      split
      · exact .refl _
      · exact (h.node .flow).bind fun n => h.flowItems false _

theorem flowEntries_within (h : AllWithin handles fuel room room') (first : Bool) (done : List NodeEntry) :
    Within (flowEntries handles (fuel + 1) room first done) (flowEntries handles (fuel + 1) room' first done) := by
  rw [flowEntries, flowEntries]
  refine .after fun ended => ?_
  split
  · exact .refl _
  · dsimp only
    refine .after_unless fun _ => .after fun keyed => ?_
    split
    · exact (h.nodeUnless _ _).bind fun k => (h.flowValue _).bind fun v => h.flowEntries false _
    · refine .after fun ended => ?_
      split
      · exact .refl _
      · exact (h.node .flow).bind fun k => .after fun v => h.flowEntries false _

theorem flowValue_within (h : AllWithin handles fuel room room') (enders : List Token) :
    Within (flowValue handles (fuel + 1) room enders) (flowValue handles (fuel + 1) room' enders) := by
  rw [flowValue, flowValue]
  refine .after fun more => ?_
  split
  · exact h.nodeUnless _ enders
  · exact .refl _

theorem allWithin (fuel : Nat) (le : room ≤ room') : AllWithin handles fuel room room' := by
  induction fuel generalizing room room' with
  | zero => exact allWithin_zero
  | succ fuel ih =>
    have others := ih le
    cases room with
    | zero =>
      exact ⟨fun place => node_noRoom handles fuel place ▸ .tooDeep _, nodeUnless_within others,
        blockItems_within others, indentless_within others, blockEntries_within others, blockValue_within others,
        flowItems_within others, pairMapping_noRoom handles fuel ▸ .tooDeep _, flowEntries_within others,
        flowValue_within others⟩
    | succ room =>
      obtain ⟨room', rfl⟩ := Nat.exists_eq_add_of_le' (Nat.one_le_of_lt le)
      have inner := ih (Nat.le_of_succ_le_succ le)
      exact ⟨node_within inner, nodeUnless_within others, blockItems_within others, indentless_within others,
        blockEntries_within others, blockValue_within others, flowItems_within others, pairMapping_within inner,
        flowEntries_within others, flowValue_within others⟩

end

/-! ## Documents -/

section
variable {room room' : Room} (le : room.nodes ≤ room'.nodes)
include le

theorem markedDocument_within (fuel : Nat) : Within (@markedDocument room fuel) (@markedDocument room' fuel) := by
  refine .after fun handles => .bind (.after fun _ => .bind (.after fun t => ?_) fun _ => .refl _) fun _ => .refl _
  split
  · exact .refl _
  · exact .refl _
  · exact .refl _
  · exact .refl _
  · exact (allWithin fuel le).node _

theorem bareDocument_within (fuel : Nat) : Within (@bareDocument room fuel) (@bareDocument room' fuel) :=
  .bind (.after fun _ => ((allWithin fuel le).node _).bind fun _ => .refl _) fun _ => .refl _

theorem firstDocument_within (fuel : Nat) : Within (@firstDocument room fuel) (@firstDocument room' fuel) := by
  refine .after fun t => ?_
  split
  · exact .refl _
  · exact (markedDocument_within le fuel).bind fun d => .refl _
  · exact (markedDocument_within le fuel).bind fun d => .refl _
  · exact (bareDocument_within le fuel).bind fun d => .refl _

theorem nextDocument_within (fuel : Nat) : Within (@nextDocument room fuel) (@nextDocument room' fuel) := by
  refine .after fun _ => .after fun t => ?_
  split
  · exact .refl _
  · exact (markedDocument_within le fuel).bind fun d => .refl _

theorem documentsFrom_within {bound fuel : Nat} {next next' : Composing (Option Document)} (h : Within next next')
    (p : Progress) :
    @documentsFrom room bound fuel next p = @documentsFrom room' bound fuel next' p ∨
      (@documentsFrom room bound fuel next p).2 = some .tooDeep := by
  induction fuel generalizing next next' p with
  | zero => exact .inl rfl
  | succ fuel ih =>
    unfold documentsFrom
    rcases h p with same | deep
    · rw [same]
      split
      · exact .inl rfl
      · exact .inl rfl
      · rename_i d q found
        rcases ih (nextDocument_within le bound) q with same | deep
        · rw [same]
          exact .inl rfl
        · exact .inr deep
    · rw [deep]
      exact .inr rfl

end

/-- The text is well formed, and these are its documents: they are what is read of it where there is room enough. -/
def WellFormed (text : List Char) (documents : List Document) : Prop :=
  ∃ room : Room, @documentsOf room text = (documents, none)

variable [here : Room] {text : List Char} {documents : List Document}

/-- There is no room for the nodes of the text inside each other. -/
def TooDeep (text : List Char) : Prop := (documentsOf text).2 = some .tooDeep

theorem WellFormed.read_or_tooDeep (h : WellFormed text documents) :
    documentsOf text = (documents, none) ∨ TooDeep text := by
  obtain ⟨room, wellFormed⟩ := h
  rcases le_total here.nodes room.nodes with less | more
  · rcases documentsFrom_within less (firstDocument_within less _) (.start text) with same | deep
    · exact .inl (same.trans wellFormed)
    · exact .inr deep
  · rcases documentsFrom_within more (firstDocument_within more _) (.start text) with same | deep
    · exact .inl (same.symm.trans wellFormed)
    · cases (congrArg Prod.snd wellFormed).symm.trans deep

end InstallWatch.Yaml
