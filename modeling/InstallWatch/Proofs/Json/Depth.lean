import Mathlib
import InstallWatch.Json.Reader

/-!
Bodies that are nested too deep: more opening brackets than there is room for lists inside each other, and nothing
else, are given up on, although the text has no end to complain about yet.
-/

namespace InstallWatch.Text

/-- What characters are encoded as is decoded to them. -/
theorem decodeUtf8_flatMap_utf8EncodeChar (s : List Char) : decodeUtf8 (s.flatMap String.utf8EncodeChar) = some s := by
  have bytes : ByteArray.mk (s.flatMap String.utf8EncodeChar).toArray = (String.ofList s).toByteArray := by
    rw [String.toByteArray_ofList, List.utf8Encode]
    apply ByteArray.ext
    simp [List.data_toByteArray]
  have valid : (String.ofList s).toByteArray.IsValidUTF8 := (String.ofList s).isValidUTF8
  unfold decodeUtf8
  rw [bytes, String.fromUTF8?, dif_pos valid]
  show some (String.ofList s).toList = some s
  rw [String.toList_ofList]

end InstallWatch.Text

namespace InstallWatch.Json

theorem skipBlanks_bracket (offset : Nat) (s : List Char) :
    Cursor.skipBlanks ⟨offset, '[' :: s⟩ = ⟨offset, '[' :: s⟩ := by
  simp [Cursor.skipBlanks, Cursor.advance, Cursor.isBlank]

/-- With room for fewer lists than brackets open, reading ends where the room does. -/
theorem readValue_brackets {room : Nat} {fuel n offset : Nat} (enough : 2 * room < fuel) (deep : room < n) :
    readValue fuel room ⟨offset, List.replicate n '['⟩ = .error .tooDeep := by
  induction room generalizing fuel n offset with
  | zero =>
    obtain ⟨fuel, rfl⟩ : ∃ f, fuel = f + 1 := ⟨fuel - 1, by omega⟩
    obtain ⟨n, rfl⟩ : ∃ m, n = m + 1 := ⟨n - 1, by omega⟩
    rw [List.replicate_succ, readValue]
    rfl
  | succ room ih =>
    obtain ⟨fuel, rfl⟩ : ∃ f, fuel = f + 2 := ⟨fuel - 2, by omega⟩
    obtain ⟨n, rfl⟩ : ∃ m, n = m + 2 := ⟨n - 2, by omega⟩
    have inner : readValue fuel room ⟨offset + 1, List.replicate (n + 1) '['⟩ = .error .tooDeep :=
      ih (by omega) (by omega)
    rw [List.replicate_succ] at inner
    rw [List.replicate_succ, List.replicate_succ, readValue]
    simp only [Cursor.advance, List.drop_succ_cons, List.drop_zero, skipBlanks_bracket]
    show readItems (fuel + 1) room ⟨offset + 1, '[' :: List.replicate n '['⟩ [] = .error .tooDeep
    rw [readItems, inner]
    rfl

theorem parse_brackets {room n : Nat} (deep : room < n) : parse room (List.replicate n '[') = .error .tooDeep := by
  obtain ⟨m, rfl⟩ : ∃ m, n = m + 1 := ⟨n - 1, by omega⟩
  have value : readValue (2 * (m + 1) + 2) room ⟨0, List.replicate (m + 1) '['⟩ = .error .tooDeep :=
    readValue_brackets (by omega) deep
  rw [List.replicate_succ] at value ⊢
  have all : readAll room ('[' :: List.replicate m '[') = .error .tooDeep := by
    unfold readAll
    rw [if_neg (by simp), skipBlanks_bracket, List.length_cons, List.length_replicate, value]
    rfl
  unfold parse
  rw [all]

theorem bodyChars_brackets {n : Nat} (h : 4 ≤ n) : bodyChars (List.replicate n 91) = List.replicate n '[' := by
  obtain ⟨m, rfl⟩ : ∃ m, n = m + 4 := ⟨n - 4, by omega⟩
  have decoded : Text.decodeUtf8 (List.replicate (m + 4) 91) = some (List.replicate (m + 4) '[') := by
    have spelled : (List.replicate (m + 4) '[').flatMap String.utf8EncodeChar = List.replicate (m + 4) 91 := by
      have bracket : String.utf8EncodeChar '[' = [91] := by decide
      rw [List.flatMap_replicate, bracket, List.flatten_replicate_singleton]
    rw [← spelled, Text.decodeUtf8_flatMap_utf8EncodeChar]
  have guessed : Text.Encoding.decodeGuessed? (List.replicate (m + 4) 91) =
      Text.decodeUtf8 (List.replicate (m + 4) 91) := rfl
  have long : ¬ (List.replicate (m + 4) (91 : UInt8)).length < 4 := by simp
  have noMark : List.replicate (m + 4) (91 : UInt8) ≠ [0xEF, 0xBB, 0xBF] := by
    intro h
    simp [List.replicate_succ] at h
  unfold bodyChars
  simp only [if_neg long, if_neg noMark, guessed, decoded]
  rfl

/-- A body of nothing but opening brackets, four of them at least, is too deep if there is no room for so many lists. -/
theorem ofBytes_brackets {room n : Nat} (long : 4 ≤ n) (deep : room < n) :
    ofBytes room (List.replicate n 91) = .error .tooDeep := by
  unfold ofBytes
  rw [bodyChars_brackets long, parse_brackets deep]

end InstallWatch.Json
