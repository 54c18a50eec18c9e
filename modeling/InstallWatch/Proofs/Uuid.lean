import Mathlib
import InstallWatch.Proofs.Text.Hex
import InstallWatch.Proofs.Text.Pieces
import InstallWatch.Uuid

/-!
The text of an identifier is canonical, and is read as this identifier: no mark and no brace can stand in it, and without
its hyphens it is a row of hexadecimal digits, which as a numeral has neither a sign nor a mark of its base.
-/

namespace InstallWatch

namespace Numeral
open InstallWatch.Text

theorem digitOf?_hexChar {d : Nat} (h : d < 16) : digitOf? 16 (hexChar d) = some d := by
  have all : ∀ d : Fin 16, digitOf? 16 (hexChar d) = some d.val := by decide +kernel
  exact all ⟨d, h⟩

theorem isWhiteSpace_hexChar {d : Nat} (h : d < 16) : isWhiteSpace (hexChar d) = false := by
  have all : ∀ d : Fin 16, isWhiteSpace (hexChar d) = false := by decide
  exact all ⟨d, h⟩

/-- Signs, underscores and the mark of the base are no digits. -/
theorem hexChar_ne {d : Nat} (h : d < 16) :
    hexChar d ≠ '+' ∧ hexChar d ≠ '-' ∧ hexChar d ≠ '_' ∧ hexChar d ≠ 'x' := by
  have all : ∀ d : Fin 16, hexChar d ≠ '+' ∧ hexChar d ≠ '-' ∧ hexChar d ≠ '_' ∧ hexChar d ≠ 'x' := by decide
  exact all ⟨d, h⟩

theorem takeSign_map_hexChar {ds : List Nat} (digits : ∀ d ∈ ds, d < 16) :
    Decimal.takeSign (ds.map hexChar) = (false, ds.map hexChar) := by
  cases ds with
  | nil => rfl
  | cons d ds =>
    obtain ⟨plus, minus, -, -⟩ := hexChar_ne (digits d List.mem_cons_self)
    rw [List.map_cons]
    unfold Decimal.takeSign
    split <;> simp_all

theorem dropMark_map_hexChar {ds : List Nat} (digits : ∀ d ∈ ds, d < 16) :
    dropMark 16 (ds.map hexChar) = ds.map hexChar := by
  match ds with
  | [] => rfl
  | [d] => rfl
  | z :: m :: ds =>
    have hm := digits m (by simp)
    have unmarked : (hexChar m).toLower ≠ 'x' := by
      rw [toLower_hexChar hm]
      exact (hexChar_ne hm).2.2.2
    simp only [List.map_cons, dropMark, baseMark?, Option.some.injEq, unmarked, and_false, ↓reduceIte]

theorem isWellGrouped_of_not_mem {s : List Char} (free : '_' ∉ s) : isWellGrouped s = true := by
  have first : s.head? ≠ some '_' := fun h => free (List.mem_of_head? h)
  have last : s.getLast? ≠ some '_' := fun h => free (List.mem_of_getLast? h)
  simp only [isWellGrouped, first, last, ne_eq, not_false_eq_true, decide_true, Bool.and_true, Bool.true_and,
    List.all_eq_true, Bool.or_eq_true, decide_eq_true_eq]
  exact fun p hp => .inl (ne_of_mem_of_not_mem (List.of_mem_zip hp).1 free)

/-- A row of hexadecimal digits is a numeral of its value. -/
theorem read_map_hexChar {ds : List Nat} (digits : ∀ d ∈ ds, d < 16) (some : ds ≠ []) :
    read 16 (ds.map hexChar) = .ok (valueOf 16 ds) := by
  have bare : trim isWhiteSpace (ds.map hexChar) = ds.map hexChar := by
    apply trim_of_all_not
    intro c hc
    obtain ⟨d, hd, rfl⟩ := List.mem_map.mp hc
    exact isWhiteSpace_hexChar (digits d hd)
  have whole : (ds.map hexChar).takeWhile (fun c => c = '_' || (digitOf? 16 c).isSome) = ds.map hexChar := by
    rw [List.takeWhile_eq_self_iff]
    intro c hc
    obtain ⟨d, hd, rfl⟩ := List.mem_map.mp hc
    simp [digitOf?_hexChar (digits d hd)]
  have values : (ds.map hexChar).filterMap (digitOf? 16) = ds := by
    rw [List.filterMap_map]
    refine (List.filterMap_congr fun d hd => ?_).trans List.filterMap_some
    exact digitOf?_hexChar (digits d hd)
  have grouped : isWellGrouped (ds.map hexChar) = true := by
    refine isWellGrouped_of_not_mem fun underscore => ?_
    obtain ⟨d, hd, same⟩ := List.mem_map.mp underscore
    exact (hexChar_ne (digits d hd)).2.2.1 same
  have filled : ds.isEmpty = false := by simpa using some
  unfold read
  simp only [bare, takeSign_map_hexChar digits, dropMark_map_hexChar digits, whole, values, grouped, filled]
  simp

end Numeral

namespace Uuid
open InstallWatch.Text

/-- Lower-case hexadecimal digits in groups of 8, 4, 4, 4 and 12, with hyphens between the groups. -/
def Canonical (s : String) : Prop :=
  ∃ groups : List (List Char), s.toList = ['-'].intercalate groups ∧ groups.map List.length = [8, 4, 4, 4, 12] ∧
    ∀ g ∈ groups, ∀ c ∈ g, c ∈ "0123456789abcdef".toList

theorem mem_hexDigits {c : Char} {width n : Nat} (h : c ∈ hexDigits width n) : c ∈ "0123456789abcdef".toList := by
  have all : ∀ d : Fin 16, hexChar d ∈ "0123456789abcdef".toList := by decide
  obtain ⟨d, hd, rfl⟩ := exists_of_mem_hexDigits h
  exact all ⟨d, hd⟩

/-- The groups of a row of digits. -/
def groups (ds : List Char) : List (List Char) :=
  [ds.take 8, (ds.drop 8).take 4, (ds.drop 12).take 4, (ds.drop 16).take 4, ds.drop 20]

theorem hyphenate_eq (ds : List Char) : hyphenate ds = ['-'].intercalate (groups ds) := by
  simp [hyphenate, groups, List.intercalate, List.intersperse]

theorem flatten_groups (ds : List Char) : (groups ds).flatten = ds := by
  have next : ∀ n m : Nat, (ds.drop n).take m ++ ds.drop (n + m) = ds.drop n := by
    intro n m
    rw [← List.drop_drop, List.take_append_drop]
  simp only [groups, List.flatten_cons, List.flatten_nil, List.append_nil]
  rw [next 16 4, next 12 4, next 8 4, List.take_append_drop]

theorem mem_of_mem_groups {ds g : List Char} {c : Char} (hg : g ∈ groups ds) (hc : c ∈ g) : c ∈ ds := by
  rw [← flatten_groups ds]
  exact List.mem_flatten.mpr ⟨g, hg, hc⟩

theorem canonical_text (u : Uuid) : Canonical u.text := by
  refine ⟨groups (hexDigits 32 u.value), ?_, ?_, fun g hg c hc => mem_hexDigits (mem_of_mem_groups hg hc)⟩
  · rw [text, String.toList_ofList, hyphenate_eq]
  · simp [groups, length_hexDigits]

theorem Canonical.mem {s : String} {c : Char} (h : Canonical s) (hc : c ∈ s.toList) :
    c = '-' ∨ c ∈ "0123456789abcdef".toList := by
  obtain ⟨groups, written, -, digits⟩ := h
  rw [written] at hc
  exact (mem_of_mem_intercalate hc).imp_right fun ⟨g, hg, hc⟩ => digits g hg c hc

/-- A text without some character of the word does not hold the word. -/
theorem removeAll_of_not_mem {word s : List Char} {c : Char} (inside : c ∈ word) (free : c ∉ s) :
    removeAll word s = s := by
  induction s with
  | nil => rw [removeAll]
  | cons d s ih =>
    have absent : ¬ (word ≠ [] ∧ word.isPrefixOf (d :: s) = true) := by
      intro found
      exact free ((List.isPrefixOf_iff_prefix.mp found.2).subset inside)
    rw [removeAll, dif_neg absent, ih fun hc => free (List.mem_cons_of_mem d hc)]

/-- Marks, braces and hyphens taken away, the digits of an identifier are left. -/
theorem core_text (u : Uuid) : core u.text.toList = hexDigits 32 u.value := by
  have inside : ∀ c ∈ u.text.toList, c = '-' ∨ c ∈ "0123456789abcdef".toList := fun c => u.canonical_text.mem
  have digits : ∀ c ∈ hexDigits 32 u.value, c ∈ "0123456789abcdef".toList := fun c hc => mem_hexDigits hc
  rw [text, String.toList_ofList] at inside ⊢
  generalize hexDigits 32 u.value = ds at digits inside
  have unmarked : ':' ∉ hyphenate ds := fun h => absurd (inside ':' h) (by decide)
  have unbraced : ∀ c ∈ hyphenate ds, (c = '\x7b' || c = '\x7d') = false := by
    intro c hc
    have opening : c ≠ '\x7b' := by
      rintro rfl
      exact absurd (inside _ hc) (by decide)
    have closing : c ≠ '\x7d' := by
      rintro rfl
      exact absurd (inside _ hc) (by decide)
    simp [opening, closing]
  have free : ∀ g ∈ groups ds, '-' ∉ g := by
    intro g hg hyphen
    exact absurd (digits '-' (mem_of_mem_groups hg hyphen)) (by decide)
  unfold core
  rw [removeAll_of_not_mem (c := ':') (by decide) unmarked, removeAll_of_not_mem (c := ':') (by decide) unmarked]
  dsimp only
  rw [trim_of_all_not unbraced, hyphenate_eq, filter_intercalate free, flatten_groups]

/-- An identifier is read back from its text. -/
theorem parse?_text (u : Uuid) : parse? u.text = some u := by
  have small : u.value.val < 16 ^ 32 := by
    calc u.value.val < Nat.pow 2 128 := u.value.isLt
      _ = 16 ^ 32 := by norm_num
  obtain ⟨ds, length, digits, value⟩ := exists_digits small
  have row : hexDigits 32 u.value = ds.map hexChar := by
    rw [← value, ← length]
    exact hexDigits_valueOf digits
  have filled : ds ≠ [] := by
    rintro rfl
    simp at length
  have number : Numeral.read? 16 (ds.map hexChar) = some (Int.ofNat u.value) := by
    rw [Numeral.read?, Numeral.read_map_hexChar digits filled, value]
    rfl
  unfold parse?
  rw [core_text, row]
  simp only [List.length_map, length, ne_eq, not_true_eq_false, ↓reduceIte, number, u.value.isLt, ↓reduceDIte]

end Uuid
end InstallWatch
