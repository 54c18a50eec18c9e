import Mathlib
import InstallWatch.Text.Trim

/-!
Cutting texts into pieces and cutting off their ends. Joining puts the pieces of a text together again, and what trimming
leaves is what stands between the characters it cuts off.
-/

namespace InstallWatch.Text

theorem splitAt_eq_splitOn (sep : Char) (s : List Char) : splitAt sep s = s.splitOn sep := by
  induction s with
  | nil => rfl
  | cons c s ih =>
    rw [List.splitOn_eq_splitOnP] at ih ⊢
    rw [splitAt, List.splitOnP_cons_eq_if_modifyHead, ih]
    by_cases hc : c = sep
    · simp [hc]
    · obtain ⟨piece, more, pieces⟩ := List.exists_cons_of_ne_nil (List.splitOnP_ne_nil (· == sep) s)
      simp [hc, pieces]

theorem intercalate_splitAt (sep : Char) (s : List Char) : [sep].intercalate (splitAt sep s) = s := by
  rw [splitAt_eq_splitOn, List.intercalate_splitOn]

/-- Pieces without the separator are found again. -/
theorem splitAt_intercalate {sep : Char} {pieces : List (List Char)} (some : pieces ≠ [])
    (free : ∀ piece ∈ pieces, sep ∉ piece) : splitAt sep ([sep].intercalate pieces) = pieces := by
  rw [splitAt_eq_splitOn, List.splitOn_intercalate sep free some]

theorem splitAt_of_not_mem {sep : Char} {s : List Char} (h : sep ∉ s) : splitAt sep s = [s] := by
  have whole : [sep].intercalate [s] = s := by simp [List.intercalate]
  have alone := splitAt_intercalate (List.cons_ne_nil s []) fun piece hpiece => List.mem_singleton.mp hpiece ▸ h
  rwa [whole] at alone

/-- A text is joined from its parts in two goes. -/
theorem intercalate_append {sep : Char} {front back : List (List Char)} (some : front ≠ []) (more : back ≠ []) :
    [sep].intercalate (front ++ back) = [sep].intercalate front ++ sep :: [sep].intercalate back := by
  induction front with
  | nil => exact absurd rfl some
  | cons piece front ih =>
    cases front with
    | nil =>
      obtain ⟨next, back, rfl⟩ := List.exists_cons_of_ne_nil more
      simp [List.intercalate, List.intersperse]
    | cons next front =>
      have rest := ih (List.cons_ne_nil next front)
      simp only [List.cons_append, List.intercalate, List.intersperse_cons_cons, List.flatten_cons] at rest ⊢
      simp [rest]

theorem length_intercalate {sep : Char} {l : List Char} {ls : List (List Char)} :
    ([sep].intercalate (l :: ls)).length + 1 = ((l :: ls).map fun l => l.length + 1).sum := by
  induction ls generalizing l with
  | nil => simp [List.intercalate]
  | cons m ls ih =>
    have rest := @ih m
    simp only [List.intercalate, List.intersperse_cons_cons, List.flatten_cons, List.length_append,
      List.length_singleton, List.map_cons, List.sum_cons] at rest ⊢
    omega

theorem mem_of_mem_intercalate {sep c : Char} {ls : List (List Char)} (h : c ∈ [sep].intercalate ls) :
    c = sep ∨ ∃ l ∈ ls, c ∈ l := by
  induction ls with
  | nil => simp [List.intercalate] at h
  | cons l ls ih =>
    cases ls with
    | nil =>
      rw [List.intercalate, List.intersperse_singleton, List.flatten_singleton] at h
      exact .inr ⟨l, List.mem_cons_self, h⟩
    | cons m ls =>
      simp only [List.intercalate, List.intersperse_cons_cons, List.flatten_cons, List.mem_append] at h ih
      rcases h with h | h | h
      · exact .inr ⟨l, List.mem_cons_self, h⟩
      · exact .inl (List.mem_singleton.mp h)
      · exact (ih h).imp_right fun ⟨l', hl', hc⟩ => ⟨l', List.mem_cons_of_mem l hl', hc⟩

/-- Without the separators the pieces stand side by side. -/
theorem filter_intercalate {sep : Char} {pieces : List (List Char)} (free : ∀ piece ∈ pieces, sep ∉ piece) :
    ([sep].intercalate pieces).filter (· ≠ sep) = pieces.flatten := by
  have kept : ∀ piece ∈ pieces, piece.filter (· ≠ sep) = piece := by
    intro piece hpiece
    rw [List.filter_eq_self]
    exact fun c hc => decide_eq_true (ne_of_mem_of_not_mem hc (free piece hpiece))
  induction pieces with
  | nil => rfl
  | cons piece pieces ih =>
    rw [List.forall_mem_cons] at free kept
    have rest := ih free.2 kept.2
    cases pieces with
    | nil => simpa [List.intercalate] using kept.1
    | cons next pieces =>
      simp only [List.intercalate, List.intersperse_cons_cons, List.flatten_cons] at rest ⊢
      rw [List.filter_append, List.filter_append, kept.1, rest]
      simp

section
variable {cut : Char → Bool} {l m r : List Char}

theorem trimStart_append (left : ∀ c ∈ l, cut c = true) : trimStart cut (l ++ m) = trimStart cut m := by
  rw [trimStart, trimStart, List.dropWhile_append_of_pos left]

theorem trimEnd_append (right : ∀ c ∈ r, cut c = true) : trimEnd cut (m ++ r) = trimEnd cut m := by
  rw [trimEnd, trimEnd, List.reverse_append, List.dropWhile_append_of_pos (by simpa using right)]

theorem trimStart_of_head (first : ∀ c ∈ m.head?, cut c = false) : trimStart cut m = m := by
  cases m with
  | nil => rfl
  | cons c m => exact trimStart_eq_self (first c rfl)

theorem trimEnd_of_last (last : ∀ c ∈ m.getLast?, cut c = false) : trimEnd cut m = m := by
  rcases List.eq_nil_or_concat m with rfl | ⟨m, c, rfl⟩
  · rfl
  · rw [List.concat_eq_append] at last ⊢
    exact trimEnd_append_of_not (last c (by simp))

/-- What is trimmed off does not matter. -/
theorem trim_between (left : ∀ c ∈ l, cut c = true) (right : ∀ c ∈ r, cut c = true)
    (first : ∀ c ∈ m.head?, cut c = false) (last : ∀ c ∈ m.getLast?, cut c = false) : trim cut (l ++ m ++ r) = m := by
  rcases m.eq_nil_or_concat with rfl | ⟨m', c, whole⟩
  · -- with nothing between, the left end takes what it can of the right one
    rw [List.append_nil, trim, trimStart_append left, ← List.nil_append (trimStart cut r)]
    refine trimEnd_append fun c hc => right c ?_
    exact (List.dropWhile_sublist cut).mem hc
  · have start : trimStart cut (m ++ r) = m ++ r := by
      apply trimStart_of_head
      simpa [whole] using first
    rw [trim, List.append_assoc, trimStart_append left, start, trimEnd_append right, trimEnd_of_last last]

end

/-- A text is what trimming leaves of it with characters around that are cut off. -/
theorem exists_of_trim (cut : Char → Bool) (s : List Char) :
    ∃ l r, s = l ++ trim cut s ++ r ∧ (∀ c ∈ l, cut c = true) ∧ (∀ c ∈ r, cut c = true) ∧
      ∀ c ∈ (trim cut s).getLast?, cut c = false := by
  refine ⟨s.takeWhile cut, ((trimStart cut s).reverse.takeWhile cut).reverse, ?_, ?_, ?_, ?_⟩
  · have ends : trimStart cut s = trim cut s ++ ((trimStart cut s).reverse.takeWhile cut).reverse := by
      rw [trim, trimEnd, ← List.reverse_append, List.takeWhile_append_dropWhile, List.reverse_reverse]
    rw [List.append_assoc, ← ends, trimStart, List.takeWhile_append_dropWhile]
  · exact fun c hc => List.mem_takeWhile_imp hc
  · exact fun c hc => List.mem_takeWhile_imp (List.mem_reverse.mp hc)
  · intro c hc
    rw [trim, trimEnd, List.getLast?_reverse] at hc
    have := List.head?_dropWhile_not cut (trimStart cut s).reverse
    rw [hc] at this
    simpa using this

end InstallWatch.Text
