import Mathlib
import InstallWatch.Address
import InstallWatch.Proofs.Address.Groups

/-!
The spellings of an address. A text is read as an address if and only if it spells it: the groups or the dotted form, a
scope as it is, and blanks around. Two spellings of an address differ in nothing else.
-/

namespace InstallWatch.Address
open InstallWatch.Text

namespace V6

/-- How an address is written: its groups, and its scope after a percent sign. -/
inductive Writes : V6 → List Char → Prop where
  | unscoped {x : V6} {m : List Char} (groups : Written x.groups m) (none : x.scope = none) : Writes x m
  | scoped {x : V6} {m : List Char} {z : Scope} (groups : Written x.groups m) (some : x.scope = some z) :
    Writes x (m ++ '%' :: z.name)

end V6

/-- How an address is written without blanks around. -/
inductive Writes : Address → List Char → Prop where
  | v4 (x : V4) : Writes (.v4 x) x.text
  | v6 {x : V6} {m : List Char} (writes : x.Writes m) : Writes (.v6 x) m

/-- The text is the address as it can be written, with blanks around. -/
def Spells (a : Address) (s : String) : Prop :=
  ∃ left m right, s.toList = left ++ m ++ right ∧ (∀ c ∈ left, isBlank c = true) ∧ (∀ c ∈ right, isBlank c = true) ∧
    (∀ c ∈ m.getLast?, isBlank c = false) ∧ a.Writes m

namespace V6

theorem InGroup.toNat_lt {c : Char} (h : InGroup c) : c.toNat < 128 := by
  rcases h with digit | rfl
  · by_contra high
    rw [hexValue?_of_high high] at digit
    cases digit
  · decide

theorem InGroup.ne_percent {c : Char} (h : InGroup c) : c ≠ '%' := by
  rintro rfl
  revert h
  unfold InGroup
  decide

theorem InGroup.not_blank {c : Char} (h : InGroup c) : isBlank c = false := by
  rcases h with digit | rfl
  · obtain ⟨n, rfl⟩ := exists_ofNat_of_lt (InGroup.toNat_lt (.inl digit))
    have plain : ∀ n : Fin 128, (hexValue? (Char.ofNat n)).isSome = true → isBlank (Char.ofNat n) = false := by
      decide +kernel
    exact plain n digit
  · decide

theorem Written.mem {groups : List Nat} {m : List Char} (h : Written groups m) {c : Char} (hc : c ∈ m) :
    InGroup c ∨ c = ':' := by
  have of_join : ∀ ws : List (List Char), (∀ w ∈ ws, ∀ c ∈ w, InGroup c) → c ∈ join [':'] ws → InGroup c ∨ c = ':' := by
    intro ws inside hc
    rcases mem_of_mem_intercalate hc with colon | ⟨w, hw, hc⟩
    · exact .inr colon
    · exact .inl (inside w hw c hc)
  rcases h with ⟨row, -⟩ | ⟨before, after, -⟩
  · exact of_join _ row.inGroup hc
  · simp only [List.mem_append] at hc
    rcases hc with (hc | colons) | hc
    · exact of_join _ (inGroup_of_words before) hc
    · exact .inr (by simpa using colons)
    · exact of_join _ after.inGroup hc

theorem Written.colon_mem {groups : List Nat} {m : List Char} (h : Written groups m) : ':' ∈ m := by
  by_contra none
  have enough := (groups?_eq_some_iff_stand.mp (groups?_of_written h)).1
  rw [splitAt_of_not_mem none] at enough
  simp at enough

theorem scope?_eq_some_iff {name : List Char} {z : Scope} : scope? name = some z ↔ z.name = name := by
  unfold scope?
  constructor
  · intro h
    split at h
    · cases h
      rfl
    · cases h
  · rintro rfl
    exact dif_pos ⟨z.name_ne_nil, z.percent_not_mem, z.slash_not_mem⟩

theorem ofGroups?_eq_some_iff {groups : List Nat} {scope : Option Scope} {x : V6} :
    ofGroups? groups scope = some x ↔ x.groups = groups ∧ x.scope = scope := by
  unfold ofGroups?
  constructor
  · intro h
    split at h
    · cases h
      exact ⟨rfl, rfl⟩
    · cases h
  · rintro ⟨rfl, rfl⟩
    exact dif_pos ⟨x.length_groups, x.lt_of_mem⟩

theorem parse?_eq_some_iff {s : List Char} {x : V6} : parse? s = some x ↔ x.Writes s := by
  constructor
  · intro h
    have whole := List.takeWhile_append_dropWhile (p := fun c => decide (c ≠ '%')) (l := s)
    unfold parse? at h
    dsimp only at h
    cases rest : s.dropWhile (fun c => decide (c ≠ '%')) with
    | nil =>
      rw [rest] at h whole
      simp only [Option.bind_eq_bind, Option.bind_some, Option.bind_eq_some_iff, groups?_eq_some_iff,
        ofGroups?_eq_some_iff] at h
      obtain ⟨groups, written, rfl, none⟩ := h
      rw [List.append_nil] at whole
      exact .unscoped (whole ▸ written) none
    | cons c name =>
      have percent : c = '%' := by
        have := List.head?_dropWhile_not (fun c => decide (c ≠ '%')) s
        rw [rest] at this
        simpa using this
      rw [rest] at h whole
      simp only [Option.bind_eq_bind, Option.bind_eq_some_iff, Option.map_eq_some_iff, scope?_eq_some_iff,
        groups?_eq_some_iff, ofGroups?_eq_some_iff] at h
      obtain ⟨scope, ⟨z, rfl, rfl⟩, groups, written, rfl, some⟩ := h
      rw [← whole, percent]
      exact .scoped written some
  · -- no group has a percent sign, so the first one is where the scope begins
    have at_percent : ∀ {groups m} rest, Written groups m → (∀ c ∈ List.head? rest, c = '%') →
        (m ++ rest).takeWhile (fun c => decide (c ≠ '%')) = m ∧ (m ++ rest).dropWhile (fun c => decide (c ≠ '%')) = rest := by
      intro groups m rest written percent
      have inside : ∀ c ∈ m, decide (c ≠ '%') = true := by
        intro c hc
        rcases written.mem hc with group | rfl
        · exact decide_eq_true group.ne_percent
        · rfl
      rw [List.takeWhile_append_of_pos inside, List.dropWhile_append_of_pos inside]
      cases rest with
      | nil => simp
      | cons c rest => simp [percent c rfl]
    rintro (⟨written, none⟩ | ⟨written, some⟩)
    · obtain ⟨front, back⟩ := at_percent [] written (by simp)
      rw [List.append_nil] at front back
      simp only [parse?, front, back, groups?_of_written written, Option.bind_eq_bind, Option.bind_some,
        ofGroups?_eq_some_iff, none, and_self]
    · rename_i m z
      obtain ⟨front, back⟩ := at_percent ('%' :: z.name) written (by simp)
      have scope : scope? z.name = .some z := scope?_eq_some_iff.mpr rfl
      simp only [parse?, front, back, groups?_of_written written, Option.bind_eq_bind, Option.bind_some, scope,
        Option.map_some, ofGroups?_eq_some_iff, some, and_self]

theorem Writes.colon_mem {x : V6} {s : List Char} (h : x.Writes s) : ':' ∈ s := by
  rcases h with ⟨written, -⟩ | ⟨written, -⟩
  · exact written.colon_mem
  · exact List.mem_append_left _ written.colon_mem

theorem Writes.head_not_blank {x : V6} {s : List Char} (h : x.Writes s) : ∀ c ∈ s.head?, isBlank c = false := by
  have first : ∀ {m}, Written x.groups m → ∀ c ∈ m.head?, isBlank c = false := by
    intro m written c hc
    rcases written.mem (List.mem_of_head? hc) with group | rfl
    · exact group.not_blank
    · decide
  rcases h with ⟨written, -⟩ | ⟨written, -⟩
  · exact first written
  · rw [List.head?_append_of_ne_nil _ (List.ne_nil_of_mem written.colon_mem)]
    exact first written

end V6

theorem V4.colon_not_mem_text (x : V4) : ':' ∉ x.text := by
  intro h
  exact V6.not_inGroup_colon (V6.inGroup_of_mem_text h)

theorem Writes.head_not_blank {a : Address} {m : List Char} (h : a.Writes m) : ∀ c ∈ m.head?, isBlank c = false := by
  rcases h with x | h
  · exact fun c hc => (V6.inGroup_of_mem_text (List.mem_of_head? hc)).not_blank
  · exact h.head_not_blank

theorem parse?_eq_some_iff {s : String} {a : Address} : parse? s = some a ↔ a.Writes s.toList := by
  unfold parse?
  cases dotted : V4.parse? s.toList with
  | some x =>
    have same := V4.parse?_eq_some_iff.mp dotted
    rw [Option.some.injEq]
    constructor
    · rintro rfl
      rw [same]
      exact .v4 x
    · intro h
      generalize s.toList = m at h dotted same
      rcases h with x' | h
      · rw [V4.parse?_eq_some_iff.mpr rfl] at dotted
        rw [Option.some.inj dotted]
      · exact absurd (same ▸ h.colon_mem) (V4.colon_not_mem_text x)
  | none =>
    simp only [Option.map_eq_some_iff, V6.parse?_eq_some_iff]
    constructor
    · rintro ⟨x, h, rfl⟩
      exact .v6 h
    · intro h
      generalize s.toList = m at h dotted
      rcases h with x | h
      · rw [V4.parse?_eq_some_iff.mpr rfl] at dotted
        cases dotted
      · exact ⟨_, h, rfl⟩

/-- What is read as an address are its spellings. -/
theorem parseTrimmed?_eq_some_iff {s : String} {a : Address} : parseTrimmed? s = some a ↔ a.Spells s := by
  rw [parseTrimmed?, parse?_eq_some_iff, trimmed, String.toList_ofList]
  constructor
  · intro h
    obtain ⟨left, right, whole, hleft, hright, last⟩ := exists_of_trim isBlank s.toList
    exact ⟨left, _, right, whole, hleft, hright, last, h⟩
  · rintro ⟨left, m, right, whole, hleft, hright, last, h⟩
    rw [whole, trim_between hleft hright h.head_not_blank last]
    exact h

end InstallWatch.Address
