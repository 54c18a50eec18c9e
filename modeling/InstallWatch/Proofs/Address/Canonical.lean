import Mathlib
import InstallWatch.Proofs.Address.Spelling

/-!
The canonical text of an address is one of its spellings: what is left out between two colons is a run of zero groups, and
as many of them as are missing. So the text is read as the address it was written for, a scope included, and two
addresses with one text are the same.
-/

namespace InstallWatch.Address
open InstallWatch.Text

namespace V6

/-- A run of zero groups, and the groups behind it. -/
theorem drop_eq_zeros_append (groups : List Nat) (start : Nat) :
    groups.drop start = List.replicate (zerosAt groups start) 0 ++ groups.drop (start + zerosAt groups start) := by
  have run : (groups.drop start).takeWhile (· = 0) = List.replicate (zerosAt groups start) 0 := by
    rw [List.eq_replicate_iff]
    exact ⟨rfl, fun g hg => by simpa using List.mem_takeWhile_imp hg⟩
  have whole := List.takeWhile_append_dropWhile (p := fun g => decide (g = 0)) (l := groups.drop start)
  have behind : groups.drop (start + zerosAt groups start) = (groups.drop start).dropWhile (· = 0) := by
    rw [← List.drop_drop]
    conv_lhs => rw [← whole]
    exact List.drop_left
  rw [behind, ← run, whole]

/-- The groups that are left out are a run of zero groups, if any are. -/
theorem longestZeros_run (groups : List Nat) :
    (longestZeros groups).2 = zerosAt groups (longestZeros groups).1 ∨ (longestZeros groups).2 = 0 := by
  unfold longestZeros
  apply List.foldlRecOn (motive := fun best : Nat × Nat => best.2 = zerosAt groups best.1 ∨ best.2 = 0)
  · exact .inr rfl
  · intro best run i _
    split
    · exact .inl rfl
    · exact run

theorem forall₂_word_hexNumeral {groups : List Nat} (small : ∀ g ∈ groups, g < 65536) :
    List.Forall₂ Word groups (groups.map hexNumeral) := by
  rw [List.forall₂_map_right_iff, List.forall₂_same]
  exact fun g hg => word_hexNumeral (small g hg)

theorem written_groupsText {groups : List Nat} (all : groups.length = 8) (small : ∀ g ∈ groups, g < 65536) :
    Written groups (groupsText groups) := by
  unfold groupsText
  have run := longestZeros_run groups
  generalize longestZeros groups = best at run
  obtain ⟨start, count⟩ := best
  dsimp only at run ⊢
  split
  · rename_i several
    have zeros := drop_eq_zeros_append groups start
    rw [← run.resolve_right (by omega)] at zeros
    have parts : groups = groups.take start ++ List.replicate count 0 ++ groups.drop (start + count) := by
      rw [List.append_assoc, ← zeros, List.take_append_drop]
    have lengths := congrArg List.length parts
    rw [List.length_append, List.length_append, List.length_replicate, all] at lengths
    -- reading puts in as many zero groups as are missing to eight, which are those that were left out
    have missing : 8 - ((groups.take start).length + (groups.drop (start + count)).length) = count := by omega
    have front : List.Forall₂ Word (groups.take start) _ :=
      forall₂_word_hexNumeral fun g hg => small g (List.mem_of_mem_take hg)
    have back : List.Forall₂ Word (groups.drop (start + count)) _ :=
      forall₂_word_hexNumeral fun g hg => small g (List.mem_of_mem_drop hg)
    have written := Written.gap front (.words back) (show _ ≤ 7 by omega)
    rw [missing, ← parts] at written
    rwa [← List.map_take, ← List.map_drop]
  · exact .whole (.words (forall₂_word_hexNumeral small)) all

theorem writes_text (x : V6) : x.Writes x.text := by
  have written := written_groupsText x.length_groups x.lt_of_mem
  unfold text
  cases scope : x.scope with
  | none =>
    rw [List.append_nil]
    exact .unscoped written scope
  | some z => exact .scoped written scope

end V6

/-- The canonical text is a spelling. -/
theorem writes_text (a : Address) : a.Writes a.text.toList := by
  cases a with
  | v4 x =>
    rw [text, String.toList_ofList]
    exact .v4 x
  | v6 x =>
    rw [text, String.toList_ofList]
    exact .v6 x.writes_text

@[simp] theorem parse?_text (a : Address) : parse? a.text = some a := parse?_eq_some_iff.mpr a.writes_text

/-- No text of an address without a scope ends in a blank, and the scope is the end of any other. -/
theorem Writes.last_not_blank {a : Address} {m m' : List Char} (h : a.Writes m) (h' : a.Writes m')
    (last : ∀ c ∈ m.getLast?, isBlank c = false) : ∀ c ∈ m'.getLast?, isBlank c = false := by
  rcases h with x | writes
  · cases h'
    exact last
  · obtain _ | writes' := h'
    rcases writes' with ⟨written, -⟩ | ⟨-, some⟩
    · intro c hc
      rcases written.mem (List.mem_of_getLast? hc) with group | rfl
      · exact group.not_blank
      · decide
    · rcases writes with ⟨-, none⟩ | ⟨-, some'⟩
      · rw [none] at some
        cases some
      · obtain rfl := Option.some.inj (some.symm.trans some')
        rw [List.getLast?_append_of_ne_nil _ (List.cons_ne_nil _ _)] at last ⊢
        exact last

/-- An address that was read with the blanks around it trimmed is read so from its text, too. -/
theorem parseTrimmed?_text {s : String} {a : Address} (h : parseTrimmed? s = some a) :
    parseTrimmed? a.text = some a := by
  obtain ⟨left, m, right, -, -, -, last, writes⟩ := parseTrimmed?_eq_some_iff.mp h
  refine parseTrimmed?_eq_some_iff.mpr ⟨[], a.text.toList, [], ?_, ?_, ?_, ?_, a.writes_text⟩
  · simp
  · simp
  · simp
  · exact writes.last_not_blank a.writes_text last

end InstallWatch.Address
