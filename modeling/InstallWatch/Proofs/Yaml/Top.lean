import Mathlib
import InstallWatch.Proofs.Yaml.Building

/-!
The tag of a document's outermost node, and the value that the document has. Only a node with the tag of mappings becomes
a mapping, and only a scalar with the tag of null becomes null.
-/

namespace InstallWatch.Yaml
open Results Scalar

/-- A value that has no place at the top of a file: neither null nor a mapping. -/
def Misplaced (d : Data) : Prop := d ≠ .null ∧ ∀ es, d ≠ .map es

instance : DecidablePred Misplaced := fun d =>
  match d with
  | .null => isFalse fun h => h.1 rfl
  | .map es => isFalse fun h => h.2 es rfl
  | .bool _ | .int _ | .float _ | .text _ | .bytes _ | .date _ | .moment _ | .list _ | .set _ | .endless =>
    isTrue ⟨nofun, nofun⟩

/-! ## Scalars -/

namespace Scalar

variable {s : String} {d : Data}

theorem flag_misplaced (h : flag s = .ok d) : Misplaced d := by
  simp only [flag] at h
  split at h
  · cases h
    simp [Misplaced]
  · split at h
    · cases h
      simp [Misplaced]
    · cases h

theorem whole_misplaced (h : whole s = .ok d) : Misplaced d := by
  obtain ⟨⟨negative, t⟩, _, h⟩ := bind_eq_ok_iff.mp h
  have whole : ∃ n : Int, pure (.int (if negative then -n else n)) = (Except.ok d : Except Flaw Data) := by
    dsimp only at h
    split at h
    · obtain ⟨n, _, h⟩ := bind_eq_ok_iff.mp h
      exact ⟨n, h⟩
    · exact ⟨0, h⟩
    · obtain ⟨n, _, h⟩ := bind_eq_ok_iff.mp h
      exact ⟨n, h⟩
    · obtain ⟨n, _, h⟩ := bind_eq_ok_iff.mp h
      exact ⟨n, h⟩
    · obtain ⟨n, _, h⟩ := bind_eq_ok_iff.mp h
      exact ⟨n, h⟩
    · split at h
      · obtain ⟨parts, _, h⟩ := bind_eq_ok_iff.mp h
        exact ⟨_, h⟩
      · obtain ⟨n, _, h⟩ := bind_eq_ok_iff.mp h
        exact ⟨n, h⟩
  obtain ⟨n, whole⟩ := whole
  cases whole
  simp [Misplaced]

theorem time_misplaced (h : time s = .ok d) : Misplaced d := by
  unfold time at h
  split at h
  · cases h
  · dsimp only at h
    split at h
    all_goals
      split at h
      · cases h
      · cases h
        simp [Misplaced]

theorem binary_misplaced (h : binary s = .ok d) : Misplaced d := by
  unfold binary at h
  split at h
  · cases h
  · split at h
    · cases h
      simp [Misplaced]
    · cases h

theorem read_misplaced {t : Tag} (h : read t s = .ok d) (tag : t ≠ Tag.nullTag) : Misplaced d := by
  simp only [read, if_neg tag] at h
  split at h
  · cases h
    simp [Misplaced]
  split at h
  · exact flag_misplaced h
  split at h
  · exact whole_misplaced h
  split at h
  · obtain ⟨_, _, rfl⟩ := map_eq_ok_iff.mp h
    simp [Misplaced]
  split at h
  · exact time_misplaced h
  split at h
  · exact binary_misplaced h
  · cases h

end Scalar

/-! ## Collections -/

theorem Cell.data_ne_null (c : Cell) (known : NodeId → Data) : c.data known ≠ .null := by
  cases c <;> simp [data]

theorem Cell.eq_map_of_data {c : Cell} {known : NodeId → Data} {es : List (Data × Data)} (h : c.data known = .map es) :
    ∃ entries, c = .map entries := by
  cases c with
  | map entries => exact ⟨entries, rfl⟩
  | list _ | set _ | pairs _ => cases h

namespace Heap

variable {h : Heap} {ms : Marks} {id : NodeId}

/-- What is made of a collection is made of what its cell holds. -/
def MadeOfCells (h : Heap) (ms : Marks) : Prop := ∀ id d, ms.mark id = .made d → ∃ known, d = (h.cell id).data known

theorem MadeOfCells.set (made : h.MadeOfCells ms) {m : Mark}
    (fits : ∀ d, m = .made d → ∃ known, d = (h.cell id).data known) : h.MadeOfCells (ms.setIfInBounds id m) := by
  intro other d mark
  simp only [Marks.mark, Array.getD_eq_getD_getElem?, Array.getElem?_setIfInBounds] at mark
  split at mark
  · rename_i same
    subst same
    split at mark
    · exact fits d mark
    · cases mark
  · exact made other d (by simpa only [Marks.mark, Array.getD_eq_getD_getElem?] using mark)

theorem make_madeOfCells (fuel : Nat) (made : h.MadeOfCells ms) (id : NodeId) : h.MadeOfCells (h.make fuel ms id) := by
  induction fuel generalizing ms id with
  | zero => exact made
  | succ fuel ih =>
    unfold make
    split
    · have seen : h.MadeOfCells (ms.setIfInBounds id .seen) := made.set nofun
      have inner := (h.cell id).collections.foldlRecOn (motive := h.MadeOfCells) (make h fuel) seen
        fun ms made inner _ => ih made inner
      dsimp only
      split
      · refine inner.set fun d same => ?_
        cases same
        exact ⟨_, rfl⟩
      · exact inner
    · exact made

theorem unrolled_of_cells (made : h.MadeOfCells ms) (depth : Nat) (id : NodeId) :
    (h.unrolled ms (depth + 1)).getD id .endless = .endless ∨
      ∃ known, (h.unrolled ms (depth + 1)).getD id .endless = (h.cell id).data known := by
  rw [unrolled, Array.getD_eq_getD_getElem?, Array.getElem?_mapIdx]
  cases mark : ms[id]? with
  | none => exact .inl rfl
  | some m =>
    right
    have marked : ms.mark id = m := by simp [Marks.mark, Array.getD_eq_getD_getElem?, mark]
    cases m with
    | made d => exact made id d marked
    | unseen => exact ⟨_, rfl⟩
    | seen => exact ⟨_, rfl⟩

/-- The data of a collection are those of its cell, unless nobody looks so far inside. -/
theorem data_collection (h : Heap) (id : NodeId) :
    h.data (.collection id) = .endless ∨ ∃ known, h.data (.collection id) = (h.cell id).data known := by
  have unseen : h.MadeOfCells (Array.replicate h.cells.size .unseen) := by
    intro other d mark
    simp only [Marks.mark, Array.getD_eq_getD_getElem?, Array.getElem?_replicate] at mark
    split at mark <;> cases mark
  have made := make_madeOfCells (h.cells.size + 1) unseen id
  simp only [Heap.data]
  split
  · exact .inr (made id _ ‹_›)
  · exact unrolled_of_cells made _ id

end Heap

/-! ## Documents -/

/-- The outermost node of the document has neither the tag of mappings nor that of null. -/
def Document.OutOfPlace (d : Document) : Prop := d.graph.tag d.root ≠ Tag.map ∧ d.graph.tag d.root ≠ Tag.nullTag

instance : DecidablePred Document.OutOfPlace := fun _ => inferInstanceAs (Decidable (_ ∧ _))

variable [Room]

namespace Building

variable {b : Building} {id : NodeId} {r : Ref}

/-- What a scalar is made to: what its text stands for, or the value that is no number. -/
theorem scalar_cases {t : Tag} (h : b.scalar id t = .ok r) :
    ∃ s d, Scalar.read t s = .ok d ∧ (r = .scalar d ∨ ∃ source, r = .noNumber source) := by
  unfold scalar at h
  obtain ⟨s, _, h⟩ := bind_eq_ok_iff.mp h
  dsimp only at h
  split at h
  on_goal 2 => split at h
  on_goal 2 => cases h
  all_goals
    obtain ⟨d, reads, h⟩ := bind_eq_ok_iff.mp h
    refine ⟨s, d, reads, ?_⟩
    split at h
    · split at h
      · cases h
        exact .inr ⟨_, rfl⟩
      · cases h
        exact .inl rfl
    · cases h
      exact .inl rfl

theorem scalar_misplaced {t : Tag} (h : b.scalar id t = .ok r) (tag : t ≠ Tag.nullTag) (heap : Heap) :
    Misplaced (heap.data r) := by
  obtain ⟨s, d, reads, rfl | ⟨source, rfl⟩⟩ := scalar_cases h
  · exact read_misplaced reads tag
  · simp [Misplaced, Heap.data, Ref.data]

/-- What a node is made to, when nothing has been made before. -/
theorem build_start_cases {g : Graph} (h : (start g).build id = .ok (r, b)) :
    (start g).scalar id (g.tag id) = .ok r ∨ r = .collection id := by
  have fresh : (start g).built.getD id none = none := by
    simp only [start, Array.getD_eq_getD_getElem?, Array.getElem?_replicate]
    split <;> rfl
  simp only [build, fresh] at h
  split at h
  · obtain ⟨r', hr, h⟩ := bind_eq_ok_iff.mp h
    cases h
    exact .inl hr
  · split at h
    · cases h
      exact .inr rfl
    · cases h

end Building

/-- A document whose outermost node has another tag has another value. -/
theorem Document.OutOfPlace.misplaced {document : Document} (h : document.OutOfPlace) {d : Data}
    (value : document.data = .ok d) : Misplaced d := by
  obtain ⟨⟨r, b⟩, builds, value⟩ := bind_eq_ok_iff.mp value
  obtain ⟨b', fills, value⟩ := bind_eq_ok_iff.mp value
  cases value
  rcases Building.build_start_cases builds with scalar | rfl
  · exact Building.scalar_misplaced scalar h.2 _
  · have follows := (Building.fillAll_traces _ (document.build_root_traces.ok _ builds)).ok _ fills
    rcases b'.heap.data_collection document.root with endless | ⟨known, data⟩
    · rw [endless]
      simp [Misplaced]
    · rw [data]
      refine ⟨Cell.data_ne_null _ known, fun es same => ?_⟩
      obtain ⟨entries, cell⟩ := Cell.eq_map_of_data same
      exact h.1 (follows.mapped _ entries cell)

end InstallWatch.Yaml
