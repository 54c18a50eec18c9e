import Mathlib
import InstallWatch.Proofs.Results
import InstallWatch.Yaml.Reader

/-!
The values of a text whose documents are all well-formed. Read as a stream, the text has the values of its documents in
their order; read as a single document, it is refused if it has more than one.
-/

namespace InstallWatch.Yaml
open InstallWatch.Results

section
variable {α β : Type} {p q : Progress}

theorem run_bind_of_ok {x : Composing α} {f : α → Composing β} {a : α} (h : x.run p = .ok (a, q)) :
    (x >>= f).run p = (f a).run q := by
  rw [StateT.run_bind, h]
  rfl

theorem run_bind_eq_ok_iff {x : Composing α} {f : α → Composing β} {b : β × Progress} :
    (x >>= f).run p = .ok b ↔ ∃ a q, x.run p = .ok (a, q) ∧ (f a).run q = .ok b := by
  rw [StateT.run_bind, bind_eq_ok_iff, Prod.exists]

end

variable [Room]

/-- Every document has a value, and these are the values. -/
def Values (documents : List Document) (ds : List Data) : Prop :=
  List.Forall₂ (fun document d => document.data = .ok d) documents ds

theorem dataOf_eq_iff {documents : List Document} {ds : List Data} :
    dataOf documents none = (ds, none) ↔ Values documents ds := by
  induction documents generalizing ds with
  | nil => simp [dataOf, Values, eq_comm]
  | cons document documents ih =>
    cases hd : document.data with
    | error flaw => simp [dataOf, hd, Values, List.forall₂_cons_left_iff]
    | ok d =>
      rcases hr : dataOf documents none with ⟨rest, fault⟩
      simp only [Values, List.forall₂_cons_left_iff, hd, Except.ok.injEq] at ih ⊢
      simp only [dataOf, hd, hr, Prod.mk.injEq]
      constructor
      · intro h
        obtain ⟨rfl, rfl⟩ := h
        exact ⟨d, rest, rfl, ih.mp hr, rfl⟩
      · intro h
        obtain ⟨_, rest', rfl, values, rfl⟩ := h
        have same := hr.symm.trans (ih.mpr values)
        cases same
        exact ⟨rfl, rfl⟩

/-- Documents that are all read have been stopped by nothing. -/
theorem dataOf_stop {documents : List Document} {stop : Option Stop} {ds : List Data}
    (h : dataOf documents stop = (ds, none)) : stop = none := by
  induction documents generalizing ds with
  | nil => exact Option.map_eq_none_iff.mp (congrArg Prod.snd h)
  | cons d documents ih =>
    unfold dataOf at h
    split at h
    · cases h
    · rcases hr : dataOf documents stop with ⟨rest, fault⟩
      rw [hr] at h
      cases h
      exact ih hr

/-! ## Sole documents -/

section
variable {fuel bound : Nat} {p q r : Progress} {d d' : Document}

theorem soleDocument_of_none (first : (firstDocument fuel).run p = .ok (none, q)) :
    (soleDocument fuel).run p = .ok (none, q) := by
  rw [soleDocument, run_bind_of_ok first]
  rfl

/-- The sole document is the first one, if there is no next one. -/
theorem soleDocument_of_last (first : (firstDocument fuel).run p = .ok (some d, q))
    (last : (nextDocument fuel).run q = .ok (none, r)) : (soleDocument fuel).run p = .ok (some d, r) := by
  rw [nextDocument] at last
  obtain ⟨⟨⟩, q₁, skips, last⟩ := run_bind_eq_ok_iff.mp last
  obtain ⟨t, q₂, peeks, last⟩ := run_bind_eq_ok_iff.mp last
  rw [soleDocument, run_bind_of_ok first]
  dsimp only
  rw [run_bind_of_ok skips, run_bind_of_ok peeks]
  split at last
  · cases last
    rw [if_pos ‹_›]
    rfl
  · obtain ⟨_, _, _, last⟩ := run_bind_eq_ok_iff.mp last
    cases last

theorem soleDocument_of_more (first : (firstDocument fuel).run p = .ok (some d, q))
    (more : (nextDocument fuel).run q = .ok (some d', r)) : (soleDocument fuel).run p = .error .malformed := by
  rw [nextDocument] at more
  obtain ⟨⟨⟩, q₁, skips, more⟩ := run_bind_eq_ok_iff.mp more
  obtain ⟨t, q₂, peeks, more⟩ := run_bind_eq_ok_iff.mp more
  rw [soleDocument, run_bind_of_ok first]
  dsimp only
  rw [run_bind_of_ok skips, run_bind_of_ok peeks]
  split at more
  · cases more
  · -- the next document has a start, which is all that is looked at before the text is refused
    obtain ⟨_, _, marked, _⟩ := run_bind_eq_ok_iff.mp more
    rw [markedDocument] at marked
    obtain ⟨_, _, starts, _⟩ := run_bind_eq_ok_iff.mp marked
    rw [if_neg ‹_›, run_bind_of_ok starts]
    rfl

/-- Documents without a fault are read one after the other, until there is no next one. -/
theorem documentsFrom_nil {next : Composing (Option Document)}
    (h : documentsFrom bound fuel next p = ([], none)) : ∃ q, next.run p = .ok (none, q) := by
  cases fuel with
  | zero => cases h
  | succ fuel =>
    rw [documentsFrom] at h
    split at h
    · cases h
    · exact ⟨_, ‹_›⟩
    · cases h

theorem documentsFrom_cons {next : Composing (Option Document)} {rest : List Document}
    (h : documentsFrom bound fuel next p = (d :: rest, none)) :
    ∃ q fuel', next.run p = .ok (some d, q) ∧ documentsFrom bound fuel' (nextDocument bound) q = (rest, none) := by
  cases fuel with
  | zero => cases h
  | succ fuel =>
    rw [documentsFrom] at h
    split at h
    · cases h
    · cases h
    · rename_i q found
      rcases more : documentsFrom bound fuel (nextDocument bound) q with ⟨documents, stop⟩
      rw [more] at h
      cases h
      exact ⟨q, fuel, found, more⟩

end

/-! ## Texts -/

/-- A text that is read to the end of its only document is read to its end. -/
theorem documentsOf_of_documentOf {text : List Char} {found : Option Document} (h : documentOf text = .ok found) :
    documentsOf text = (found.toList, none) := by
  rw [documentOf, map_eq_ok_iff] at h
  obtain ⟨⟨_, r⟩, sole, rfl⟩ := h
  rw [soleDocument] at sole
  obtain ⟨first, q, reads, sole⟩ := run_bind_eq_ok_iff.mp sole
  rw [documentsOf]
  cases first with
  | none =>
    cases sole
    simp only [documentsFrom, reads]
    rfl
  | some d =>
    obtain ⟨⟨⟩, q₁, skips, sole⟩ := run_bind_eq_ok_iff.mp sole
    obtain ⟨t, q₂, peeks, sole⟩ := run_bind_eq_ok_iff.mp sole
    split at sole
    · cases sole
      have last : (nextDocument (callBound (Progress.start text).tokens)).run q = .ok (none, r) := by
        rw [nextDocument, run_bind_of_ok skips, run_bind_of_ok peeks, if_pos ‹_›]
        rfl
      simp only [documentsFrom, reads, last]
      rfl
    · -- what follows is the start of another document, for which there is no place
      obtain ⟨_, _, _, sole⟩ := run_bind_eq_ok_iff.mp sole
      cases sole

variable {text : List Char} {documents : List Document} {ds : List Data} {d : Data}

theorem readAll_eq_iff (wellFormed : documentsOf text = (documents, none)) :
    readAll text = (ds, none) ↔ Values documents ds := by
  rw [readAll, wellFormed, dataOf_eq_iff]

/-- A text that may hold one document is refused if it holds more. -/
theorem documentOf_of_documentsOf (wellFormed : documentsOf text = (documents, none)) :
    documentOf text = match documents with
      | [] => .ok none
      | [document] => .ok (some document)
      | _ => .error .malformed := by
  rw [documentsOf] at wellFormed
  rw [documentOf]
  match documents with
  | [] =>
    obtain ⟨q, first⟩ := documentsFrom_nil wellFormed
    rw [soleDocument_of_none first]
    rfl
  | [document] =>
    obtain ⟨q, _, first, wellFormed⟩ := documentsFrom_cons wellFormed
    obtain ⟨r, last⟩ := documentsFrom_nil wellFormed
    rw [soleDocument_of_last first last]
    rfl
  | document :: _ :: _ =>
    obtain ⟨q, _, first, wellFormed⟩ := documentsFrom_cons wellFormed
    obtain ⟨r, _, more, _⟩ := documentsFrom_cons wellFormed
    rw [soleDocument_of_more first more]
    rfl

/-- A text that may hold one document has the value of that one, or null if there is none. -/
theorem readOne_eq_ok_iff (wellFormed : documentsOf text = (documents, none)) :
    readOne text = .ok d ↔ documents = [] ∧ d = .null ∨ ∃ document, documents = [document] ∧ document.data = .ok d := by
  rw [readOne, documentOf_of_documentsOf wellFormed]
  match documents with
  | [] => simp [eq_comm]
  | [document] => cases hd : document.data <;> simp [hd, Except.mapError]
  | _ :: _ :: _ => simp

end InstallWatch.Yaml
