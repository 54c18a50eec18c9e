import Mathlib
import InstallWatch.Proofs.Results
import InstallWatch.Yaml.Reader

/-!
Faults of YAML texts that nobody expects, and the scalars they come from: words, times and numbers that do not fit the
tags they are given, and numbers in sixties with too many places.
-/

namespace InstallWatch.Yaml
open InstallWatch.Results

inductive IsStray : Fault → Prop where
  | unknownWord : IsStray (.node .unknownWord)
  | notTime : IsStray (.node .notTime)
  | timeInMapping : IsStray (.node .timeInMapping)
  | emptyNumber : IsStray (.node .emptyNumber)
  | tooFar : IsStray (.node .tooFar)
  | hugePlace : IsStray (.node .hugePlace)
  | hugeCharacter : IsStray (.text .hugeCharacter)
  | tooDeep : IsStray (.text .tooDeep)

/-- A step that ends in a flaw that nobody expects. -/
def GoesAstray {α : Type} (r : Except Flaw α) : Prop := ∃ flaw, r = .error flaw ∧ IsStray (.node flaw)

section
variable {α β : Type}

theorem goesAstray_ok_iff {a : α} : GoesAstray (.ok a) ↔ False := by
  simp [GoesAstray]

theorem goesAstray_error_iff {flaw : Flaw} : GoesAstray (.error flaw : Except Flaw α) ↔ IsStray (.node flaw) := by
  simp [GoesAstray]

theorem goesAstray_bind_iff {r : Except Flaw α} {f : α → Except Flaw β} :
    GoesAstray (r >>= f) ↔ GoesAstray r ∨ ∃ a, r = .ok a ∧ GoesAstray (f a) := by
  cases r with
  | error flaw => simp [GoesAstray, bind, Except.bind]
  | ok a => simp [GoesAstray, bind, Except.bind]

theorem goesAstray_map_iff {r : Except Flaw α} {f : α → β} : GoesAstray (r.map f) ↔ GoesAstray r := by
  cases r <;> simp [GoesAstray, Except.map]

theorem goesAstray_bind_pure_iff {r : Except Flaw α} {f : α → β} :
    GoesAstray (do let a ← r; return f a) ↔ GoesAstray r := by
  cases r <;> simp [GoesAstray, bind, Except.bind, pure, Except.pure]

/-- A traversal goes astray in one of its steps. -/
theorem goesAstray_mapM {f : α → Except Flaw β} {as : List α} (h : ∀ a ∈ as, ¬ GoesAstray (f a)) :
    ¬ GoesAstray (as.mapM f) := by
  intro astray
  obtain ⟨flaw, hm, stray⟩ := astray
  obtain ⟨a, ha, hf⟩ := exists_of_mapM_eq_error hm
  exact h a ha ⟨flaw, hf, stray⟩

end

namespace Scalar

/-- The words for flags, in lower case. -/
def flagWords : List String := ["yes", "true", "on", "no", "false", "off"]

/-- What is left of a number without its underscores. -/
def bare (s : String) : List Char := s.toList.filter (· ≠ '_')

/-- A number in sixties, one place of which is worth more than a number can be. -/
inductive HugePlace (s : String) : Prop where
  | intro (negative : Bool) (t : List Char) (rest : numberRest s = .ok (negative, t))
      (sixties : t.contains ':' = true) (parts : List Float) (reads : (Text.splitAt ':' t).mapM decimal = .ok parts)
      (k : Nat) (place : k < parts.length) (huge : (Float.ofNat (60 ^ k)).isInf = true)

/-- A text that does not fit the tag it has, so that reading it goes astray. -/
inductive Misfit : Tag → String → Prop where
  | flag (s : String) (unknown : Text.lowered s ∉ flagWords) : Misfit Tag.bool s
  | time (s : String) (odd : Look.stamp? (Look.dropFinalBreak s.toList) = none) : Misfit Tag.timestamp s
  | whole (s : String) (empty : bare s = [] ∨ bare s = ['-'] ∨ bare s = ['+']) : Misfit Tag.int s
  | number (s : String) (empty : bare s = []) : Misfit Tag.float s
  | places (s : String) (huge : HugePlace s) : Misfit Tag.float s

/-! ## Reading scalars -/

theorem flag_goesAstray_iff {s : String} : GoesAstray (flag s) ↔ Text.lowered s ∉ flagWords := by
  unfold flag
  dsimp only
  generalize Text.lowered s = w
  by_cases yes : ["yes", "true", "on"].contains w = true
  · have known : w ∈ flagWords := List.mem_append_left ["no", "false", "off"] (List.contains_iff_mem.mp yes)
    rw [if_pos yes, goesAstray_ok_iff]
    exact ⟨False.elim, fun unknown => unknown known⟩
  · by_cases no : ["no", "false", "off"].contains w = true
    · have known : w ∈ flagWords := List.mem_append_right ["yes", "true", "on"] (List.contains_iff_mem.mp no)
      rw [if_neg yes, if_pos no, goesAstray_ok_iff]
      exact ⟨False.elim, fun unknown => unknown known⟩
    · rw [if_neg yes, if_neg no, goesAstray_error_iff]
      constructor
      · intro _ known
        rcases List.mem_append.mp (show w ∈ ["yes", "true", "on"] ++ ["no", "false", "off"] from known) with h | h
        · exact yes (List.contains_iff_mem.mpr h)
        · exact no (List.contains_iff_mem.mpr h)
      · exact fun _ => .unknownWord

theorem signedRest_goesAstray_iff {s : String} : GoesAstray (signedRest s.toList) ↔ bare s = [] := by
  unfold signedRest bare
  split
  · rename_i empty
    rw [goesAstray_error_iff]
    exact ⟨fun _ => empty, fun _ => .emptyNumber⟩
  · simp only [*, goesAstray_ok_iff, reduceCtorEq]
  · simp only [*, goesAstray_ok_iff, reduceCtorEq]
  · rename_i filled _ _
    rw [goesAstray_ok_iff]
    exact ⟨False.elim, fun empty => filled empty⟩

/-- Nothing is left of a number if there is no more of it than a sign. -/
theorem signedRest_nil_iff {s : String} :
    (∃ negative, signedRest s.toList = .ok (negative, [])) ↔ bare s = ['-'] ∨ bare s = ['+'] := by
  unfold signedRest bare
  generalize s.toList.filter (· ≠ '_') = u
  split <;> simp_all

theorem numeral_expected {base : Nat} {s : List Char} : ¬ GoesAstray (numeral base s) := by
  intro astray
  obtain ⟨flaw, h, stray⟩ := astray
  unfold numeral at h
  cases hr : Numeral.read base s with
  | ok n => simp [hr, Except.mapError] at h
  | error f =>
    rw [hr] at h
    cases h
    cases stray

theorem decimal_expected {s : List Char} : ¬ GoesAstray (decimal s) := by
  intro astray
  obtain ⟨flaw, h, stray⟩ := astray
  unfold decimal at h
  dsimp only at h
  split at h
  · cases h
  · cases h
    cases stray

theorem sixties_goesAstray_iff {place : Nat} {sum : Float} {ds : List Float} :
    GoesAstray (sixties place sum ds) ↔ ∃ k < ds.length, (Float.ofNat (60 ^ k * place)).isInf = true := by
  induction ds generalizing place sum with
  | nil => simp [sixties, goesAstray_ok_iff]
  | cons d ds ih =>
    unfold sixties
    dsimp only
    split
    · rename_i huge
      rw [goesAstray_error_iff]
      constructor
      · exact fun _ => ⟨0, Nat.succ_pos _, by simpa using huge⟩
      · exact fun _ => .hugePlace
    · rename_i small
      rw [ih]
      constructor
      · intro h
        obtain ⟨k, hk, huge⟩ := h
        exact ⟨k + 1, Nat.succ_lt_succ hk, by rwa [Nat.pow_succ, Nat.mul_assoc]⟩
      · intro h
        obtain ⟨k, hk, huge⟩ := h
        cases k with
        | zero => exact absurd (by simpa using huge) small
        | succ k => exact ⟨k, Nat.lt_of_succ_lt_succ hk, by rwa [Nat.pow_succ, Nat.mul_assoc] at huge⟩

theorem whole_goesAstray_iff {s : String} :
    GoesAstray (whole s) ↔ bare s = [] ∨ bare s = ['-'] ∨ bare s = ['+'] := by
  unfold whole
  rw [goesAstray_bind_iff, signedRest_goesAstray_iff, ← signedRest_nil_iff]
  refine or_congr Iff.rfl ?_
  constructor
  · intro h
    obtain ⟨⟨negative, t⟩, hs, h⟩ := h
    dsimp only at h
    split at h
    · exact ⟨negative, hs⟩
    · exact (goesAstray_ok_iff.mp h).elim
    · exact absurd (goesAstray_bind_pure_iff.mp h) numeral_expected
    · exact absurd (goesAstray_bind_pure_iff.mp h) numeral_expected
    · exact absurd (goesAstray_bind_pure_iff.mp h) numeral_expected
    · split at h
      · exact absurd (goesAstray_bind_pure_iff.mp h) (goesAstray_mapM fun _ _ => numeral_expected)
      · exact absurd (goesAstray_bind_pure_iff.mp h) numeral_expected
  · intro h
    obtain ⟨negative, hs⟩ := h
    exact ⟨(negative, []), hs, goesAstray_bind_iff.mpr (.inl (goesAstray_error_iff.mpr .emptyNumber))⟩

theorem number_goesAstray_iff {s : String} : GoesAstray (number s) ↔ bare s = [] ∨ HugePlace s := by
  have headless : GoesAstray (numberRest s) ↔ bare s = [] := by
    rw [numberRest, goesAstray_map_iff, signedRest_goesAstray_iff]
  unfold number
  rw [goesAstray_bind_iff, headless]
  refine or_congr Iff.rfl ?_
  constructor
  · intro h
    obtain ⟨⟨negative, t⟩, rest, h⟩ := h
    dsimp only at h
    split at h
    · exact absurd (goesAstray_bind_pure_iff.mp h) goesAstray_ok_iff.mp
    · split at h
      · exact absurd h goesAstray_ok_iff.mp
      · split at h
        · rename_i sixties
          rcases goesAstray_bind_iff.mp h with h | ⟨parts, reads, h⟩
          · exact absurd h (goesAstray_mapM fun _ _ => decimal_expected)
          · obtain ⟨k, place, huge⟩ := sixties_goesAstray_iff.mp (goesAstray_bind_pure_iff.mp h)
            exact ⟨negative, t, rest, sixties, parts, reads, k, by simpa using place, by simpa using huge⟩
        · exact absurd (goesAstray_bind_pure_iff.mp h) decimal_expected
  · intro h
    obtain ⟨negative, t, rest, sixties, parts, reads, k, place, huge⟩ := h
    refine ⟨_, rest, ?_⟩
    dsimp only
    have finite : t ≠ ".inf".toList := by
      intro word
      subst word
      cases sixties
    have given : t ≠ noNumber := by
      intro word
      subst word
      cases sixties
    rw [if_neg finite, if_neg given, if_pos sixties]
    refine goesAstray_bind_iff.mpr (.inr ⟨parts, reads, goesAstray_bind_pure_iff.mpr ?_⟩)
    exact sixties_goesAstray_iff.mpr ⟨k, by simpa using place, by simpa using huge⟩

theorem time_goesAstray_iff {s : String} :
    GoesAstray (time s) ↔ Look.stamp? (Look.dropFinalBreak s.toList) = none := by
  unfold time
  cases Look.stamp? (Look.dropFinalBreak s.toList) with
  | none => simp [goesAstray_error_iff, IsStray.notTime]
  | some t =>
    simp only [reduceCtorEq, iff_false]
    intro astray
    obtain ⟨flaw, h, stray⟩ := astray
    split at h
    · split at h
      · cases h
        cases stray
      · cases h
    · split at h
      · cases h
        cases stray
      · cases h

theorem binary_expected {s : String} : ¬ GoesAstray (binary s) := by
  intro astray
  obtain ⟨flaw, h, stray⟩ := astray
  unfold binary at h
  split at h
  · cases h
    cases stray
  · split at h
    · cases h
    · cases h
      cases stray

theorem read_bool (s : String) : read Tag.bool s = flag s := by
  rw [read, if_neg (by decide +kernel), if_neg (by decide +kernel), if_pos rfl]

theorem read_int (s : String) : read Tag.int s = whole s := by
  rw [read, if_neg (by decide +kernel), if_neg (by decide +kernel), if_neg (by decide +kernel), if_pos rfl]

theorem read_float (s : String) : read Tag.float s = (number s).map .float := by
  rw [read, if_neg (by decide +kernel), if_neg (by decide +kernel), if_neg (by decide +kernel),
    if_neg (by decide +kernel), if_pos rfl]

theorem read_timestamp (s : String) : read Tag.timestamp s = time s := by
  rw [read, if_neg (by decide +kernel), if_neg (by decide +kernel), if_neg (by decide +kernel),
    if_neg (by decide +kernel), if_neg (by decide +kernel), if_pos rfl]

/-- Reading a scalar goes astray exactly if its text does not fit its tag. -/
theorem read_goesAstray_iff {t : Tag} {s : String} : GoesAstray (read t s) ↔ Misfit t s := by
  constructor
  · intro h
    unfold read at h
    split at h
    · exact absurd h goesAstray_ok_iff.mp
    split at h
    · exact absurd h goesAstray_ok_iff.mp
    split at h
    · subst t
      exact .flag s (flag_goesAstray_iff.mp h)
    split at h
    · subst t
      exact .whole s (whole_goesAstray_iff.mp h)
    split at h
    · subst t
      rcases number_goesAstray_iff.mp (goesAstray_map_iff.mp h) with empty | huge
      · exact .number s empty
      · exact .places s huge
    split at h
    · subst t
      exact .time s (time_goesAstray_iff.mp h)
    split at h
    · exact absurd h binary_expected
    · cases goesAstray_error_iff.mp h
  · intro h
    cases h with
    | flag _ unknown =>
      rw [read_bool]
      exact flag_goesAstray_iff.mpr unknown
    | time _ odd =>
      rw [read_timestamp]
      exact time_goesAstray_iff.mpr odd
    | whole _ empty =>
      rw [read_int]
      exact whole_goesAstray_iff.mpr empty
    | number _ empty =>
      rw [read_float, goesAstray_map_iff]
      exact number_goesAstray_iff.mpr (.inl empty)
    | places _ huge =>
      rw [read_float, goesAstray_map_iff]
      exact number_goesAstray_iff.mpr (.inr huge)

/-- Every text is a text. -/
theorem not_misfit_str (s : String) : ¬ Misfit Tag.str s := by
  rw [← read_goesAstray_iff, read, if_pos rfl, goesAstray_ok_iff]
  exact id

end Scalar

end InstallWatch.Yaml
