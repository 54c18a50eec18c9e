import Mathlib
import InstallWatch.Files.Tree
import InstallWatch.Proofs.Text.Pieces
import InstallWatch.Proofs.Text.Plain

/-!
Paths of plain names, and those that are too long. A folder may be there although its path leaves no room for the path of
a file in it, or although nobody may go into it; then nothing can be told of any file in it with a longer name either.
-/

namespace InstallWatch.Text

/-- A slash ends what was before it, whatever it was. -/
theorem points_append_slash (s : List Char) : ∃ ps, ∀ rest, points (s ++ '/' :: rest) = ps ++ points rest := by
  have slash : ∀ rest, points ('/' :: rest) = .char '/' :: points rest := by
    intro rest
    cases rest <;> simp [points, half?, firstHalf, genuineMark]
  fun_induction points s with
  | case1 => exact ⟨[.char '/'], slash⟩
  | case2 c h half =>
    have other : c ≠ genuineMark := by
      rintro rfl
      simp [half?, genuineMark, firstHalf] at half
    refine ⟨[.half h, .char '/'], fun rest => ?_⟩
    simp [points, other, half, slash]
  | case3 c half =>
    by_cases mark : c = genuineMark
    · exact ⟨[.char '/'], fun rest => by simp [points, mark]⟩
    · exact ⟨[.char c, .char '/'], fun rest => by simp [points, mark, half, slash]⟩
  | case4 d s ih =>
    obtain ⟨ps, hps⟩ := ih
    exact ⟨.char d :: ps, fun rest => by simp [points, hps]⟩
  | case5 c d s other h half ih =>
    obtain ⟨ps, hps⟩ := ih
    refine ⟨.half h :: ps, fun rest => ?_⟩
    have next := hps rest
    rw [List.cons_append] at next
    simp [points, other, half, next]
  | case6 c d s other half ih =>
    obtain ⟨ps, hps⟩ := ih
    refine ⟨.char c :: ps, fun rest => ?_⟩
    have next := hps rest
    rw [List.cons_append] at next
    simp [points, other, half, next]

theorem length_pointBytes_plain {c : Char} (plain : c.toNat < 128) : (pointBytes (.char c)).length = 1 := by
  have small : c.utf8Size = 1 := by
    rw [Char.utf8Size_eq_one_iff, UInt32.le_iff_toNat_le]
    exact Nat.le_of_lt_succ plain
  rw [pointBytes, Array.length_toList]
  show (String.singleton c).toUTF8.size = 1
  simp [List.utf8Encode_singleton, String.utf8EncodeChar_eq_singleton small]

end InstallWatch.Text

namespace InstallWatch.Files
open InstallWatch.Text

/-- A text of plain characters has as many bytes as characters. -/
theorem sizeOf_plain {s : String} (plain : ∀ c ∈ s.toList, c.toNat < 128) : Files.sizeOf s = s.toList.length := by
  have one : ∀ c ∈ s.toList, (pointBytes (.char c)).length = 1 := fun c hc => length_pointBytes_plain (plain c hc)
  rw [Files.sizeOf, encodeUtf8, points_plain plain, List.flatMap_map, List.length_flatMap, List.map_congr_left one]
  simp

theorem sizeOf_append_slash (s : String) : ∃ n, ∀ rest, Files.sizeOf (s ++ "/" ++ rest) = n + Files.sizeOf rest := by
  obtain ⟨ps, hps⟩ := points_append_slash s.toList
  refine ⟨(ps.flatMap pointBytes).length, fun rest => ?_⟩
  have text : (s ++ "/" ++ rest).toList = s.toList ++ '/' :: rest.toList := by simp [String.toList_append]
  rw [Files.sizeOf, Files.sizeOf, encodeUtf8, encodeUtf8, text, hps, List.flatMap_append, List.length_append]

/-- A path of plain names has a byte for each of their characters, and one for the slash in front of each. -/
theorem Path.sizeOf_text {p : Path} (root : p.start = .root) (some : p.parts ≠ [])
    (plain : ∀ name ∈ p.parts, ∀ c ∈ name.toList, c.toNat < 128) :
    Files.sizeOf p.text = (p.parts.map fun name => name.toList.length + 1).sum := by
  have text : p.text.toList = '/' :: ['/'].intercalate (p.parts.map String.toList) := by
    simp [Path.text, root, Path.startText, String.toList_append, String.toList_intercalate]
  obtain ⟨name, names, parts⟩ := List.exists_cons_of_ne_nil some
  rw [sizeOf_plain, text, List.length_cons, parts, List.map_cons, length_intercalate]
  · simp [Function.comp_def]
  · intro c hc
    rw [text] at hc
    rcases List.mem_cons.mp hc with rfl | hc
    · decide
    · rcases mem_of_mem_intercalate hc with rfl | ⟨l, hl, hc⟩
      · decide
      · obtain ⟨name, hname, rfl⟩ := List.mem_map.mp hl
        exact plain name hname c hc

namespace Path

/-- A name that is a path below every folder, written without anything that says nothing. -/
structure Below (name : String) : Prop where
  start : (parse name).start = .here
  parts : (parse name).parts ≠ []
  whole : "/".intercalate (parse name).parts = name
  ordinary : ∀ part ∈ (parse name).parts, '\x00' ∉ part.toList

theorem Below.child {name : String} (h : Below name) (folder : Path) :
    folder.child name = ⟨folder.start, folder.parts ++ (parse name).parts⟩ := by
  rw [Path.child, below, if_pos h.start]

/-- The last component of the path of a file is the same in every folder. -/
theorem Below.name_child {name : String} (h : Below name) (folder : Path) :
    (folder.child name).name = (parse name).name := by
  simp only [h.child, Path.name, List.getLastD_eq_getLast?, List.getLast?_append_of_ne_nil _ h.parts]

/-- What stands in front of the name of a file in a folder: nothing, or something up to a slash. -/
def front (folder : Path) : String :=
  startText folder.start ++ if folder.parts = [] then "" else "/".intercalate folder.parts ++ "/"

theorem Below.text_child {name : String} (h : Below name) (folder : Path) :
    (folder.child name).text = folder.front ++ name := by
  have some : folder.parts ++ (parse name).parts ≠ [] := by simp [h.parts]
  rw [h.child, text, if_neg (by simp [h.parts]), front]
  by_cases none : folder.parts = []
  · simp [none, h.whole]
  · have pieces : "/".intercalate (folder.parts ++ (parse name).parts) = "/".intercalate folder.parts ++ "/" ++ name := by
      have slash : "/".toList = ['/'] := rfl
      have whole := congrArg String.toList h.whole
      rw [String.toList_intercalate, slash] at whole
      rw [← String.toList_inj, String.toList_intercalate, List.map_append, slash,
        intercalate_append (by simpa using none) (by simpa using h.parts), whole]
      simp [String.toList_intercalate]
    simp [none, pieces, String.append_assoc]

/-- The paths of files in a folder differ in size as the names do. -/
theorem sizeOf_child (folder : Path) :
    ∃ n, ∀ name, Below name → Files.sizeOf (folder.child name).text = n + Files.sizeOf name := by
  have cut : folder.front = "" ∨ ∃ s, folder.front = s ++ "/" := by
    unfold front
    by_cases none : folder.parts = []
    · rw [if_pos none]
      cases folder.start with
      | here => exact .inl rfl
      | root => exact .inr ⟨"", rfl⟩
      | doubleRoot => exact .inr ⟨"/", rfl⟩
    · rw [if_neg none, ← String.append_assoc]
      exact .inr ⟨_, rfl⟩
  rcases cut with empty | ⟨s, cut⟩
  · refine ⟨0, fun name h => ?_⟩
    rw [h.text_child, empty, String.empty_append, Nat.zero_add]
  · obtain ⟨n, size⟩ := sizeOf_append_slash s
    refine ⟨n, fun name h => ?_⟩
    rw [h.text_child, cut, size]

end Path

namespace Tree

theorem locate_of_long {t : Tree} {p : Path} (ordinary : ∀ name ∈ p.parts, '\x00' ∉ name.toList)
    (long : maxPathSize < Files.sizeOf p.text) : t.locate p = .error .tooLong := by
  have named : (p.parts.any fun name => name.toList.contains '\x00') = false := by
    simpa using ordinary
  rw [locate, named, if_pos long]
  rfl

/-- Nothing can be told of a path that is too long. -/
theorem file?_of_long {t : Tree} {p : Path} (ordinary : ∀ name ∈ p.parts, '\x00' ∉ name.toList)
    (long : maxPathSize < Files.sizeOf p.text) : t.file? p = .error .tooLong := by
  rw [file?, locate_of_long ordinary long]
  rfl

/-- Steps forward lead along the names, as long as they stay on the way to something. -/
theorem walk_along {t : Tree} {whole : List String} {i : Item} (there : (whole, i) ∈ t.items)
    (free : ∀ place, t.isLockedAt place = false) {names place : List String} (along : place ++ names = whole)
    (forward : ∀ name ∈ names, name ≠ ".." ∧ Files.sizeOf name ≤ maxNameSize) :
    t.walk names place = .ok (some whole) := by
  induction names generalizing place with
  | nil =>
    rw [List.append_nil] at along
    rw [walk, along]
  | cons name names ih =>
    obtain ⟨onward, short⟩ := forward name List.mem_cons_self
    have folder : t.isFolderAt place = true := by
      have inside : (place.isPrefixOf whole && decide (place.length < whole.length)) = true := by
        simp [← along]
      simp only [isFolderAt, Bool.or_eq_true, List.any_eq_true]
      exact .inr ⟨(whole, i), there, inside⟩
    rw [walk, folder, if_neg (by simp), free place, if_neg (by simp), if_neg onward, if_neg (by omega)]
    exact ih (by simp [← along]) fun n hn => forward n (List.mem_cons_of_mem name hn)

theorem walk_append (t : Tree) (names rest place : List String) :
    t.walk (names ++ rest) place = match t.walk names place with
      | .ok (some place) => t.walk rest place
      | stuck => stuck := by
  induction names generalizing place with
  | nil => rfl
  | cons name names ih =>
    rw [List.cons_append, walk, walk]
    split
    · rfl
    · split
      · rfl
      · split
        · exact ih place.dropLast
        · split
          · rfl
          · exact ih (place ++ [name])

theorem locate_child {name : String} (h : Path.Below name) (t : Tree) (folder : Path) :
    t.locate (folder.child name) =
      if folder.parts.any fun part => part.toList.contains '\x00' then .ok none
      else if maxPathSize < Files.sizeOf (folder.child name).text then .error .tooLong
      else match t.walk folder.parts (t.origin folder) with
        | .ok (some place) => t.walk (Path.parse name).parts place
        | stuck => stuck := by
  have ordinary : ((Path.parse name).parts.any fun part => part.toList.contains '\x00') = false := by
    simpa using h.ordinary
  have origin : t.origin ⟨folder.start, folder.parts ++ (Path.parse name).parts⟩ = t.origin folder := rfl
  rw [locate, h.child, origin, walk_append, List.any_append, ordinary, Bool.or_false]

/-- If nothing can be told of a file, nothing can be told of one with a longer name in the same folder, unless the name
of the first is too long itself. -/
theorem file?_error_of_longer {t : Tree} {folder : Path} {name other : String} {f : Fault} (h : Path.Below name)
    (h' : Path.Below other) (longer : Files.sizeOf name ≤ Files.sizeOf other) (single : (Path.parse name).parts = [name])
    (short : Files.sizeOf name ≤ maxNameSize) (hidden : t.file? (folder.child name) = .error f) :
    ∃ f', t.file? (folder.child other) = .error f' := by
  obtain ⟨n, size⟩ := Path.sizeOf_child folder
  rw [file?, locate_child h, size name h, single] at hidden
  rw [file?, locate_child h', size other h']
  split at hidden
  · cases hidden
  · rw [if_neg ‹_›]
    by_cases long : maxPathSize < n + Files.sizeOf other
    · rw [if_pos long]
      exact ⟨_, rfl⟩
    · rw [if_neg (by omega)] at hidden
      rw [if_neg long]
      cases hw : t.walk folder.parts (t.origin folder) with
      | error g => exact ⟨g, rfl⟩
      | ok stop =>
        cases stop with
        | none =>
          rw [hw] at hidden
          cases hidden
        | some place =>
          -- a short name has a place unless its folder is locked, and then so has no other name
          obtain ⟨first, rest, names⟩ := List.exists_cons_of_ne_nil h'.parts
          rw [hw] at hidden
          simp only [walk, if_neg (not_lt.mpr short)] at hidden
          split at hidden
          · cases hidden
          · rename_i there
            split at hidden
            · rename_i locked
              simp only [names, walk, if_neg there, if_pos locked]
              exact ⟨_, rfl⟩
            · split at hidden <;> cases hidden

end Tree

end InstallWatch.Files
