import Mathlib
import InstallWatch.Text.Encodable
import InstallWatch.Text.Terminal

/-!
Plain texts, of ASCII characters other than the escape: they hold no halves of surrogate pairs and no control sequences, so
that they are written, and shown by a terminal, as they are.
-/

namespace InstallWatch.Text

theorem points_plain {s : List Char} (plain : ∀ c ∈ s, c.toNat < 128) : points s = s.map .char := by
  have written : ofPoints (s.map .char) = s := by
    induction s with
    | nil => rfl
    | cons c s ih =>
      have hc : isReserved c = false := by
        have := plain c List.mem_cons_self
        simp [isReserved, firstHalf]
        omega
      have rest := ih fun d hd => plain d (List.mem_cons_of_mem c hd)
      rw [ofPoints] at rest ⊢
      rw [List.map_cons, List.flatMap_cons, rest, ofPoint, genuine, hc]
      rfl
  have read := points_ofPoints (s.map .char)
  rwa [written] at read

/-- Whether the character is an ASCII character other than the escape. -/
def isPlain (c : Char) : Bool := c.toNat < 128 && c != '\x1b'

/-- The text is made of plain characters. -/
def Plain (s : String) : Prop := s.toList.all isPlain = true

instance (s : String) : Decidable (Plain s) := inferInstanceAs (Decidable (_ = true))

theorem Plain.append {s t : String} (hs : Plain s) (ht : Plain t) : Plain (s ++ t) := by
  rw [Plain, String.toList_append, List.all_append, hs, ht]
  rfl

theorem Plain.mem {s : String} (h : Plain s) : ∀ c ∈ s.toList, c.toNat < 128 ∧ c ≠ '\x1b' := by
  simpa [Plain, isPlain] using h

theorem isPlain_of_isDigit {c : Char} (digit : c.isDigit = true) : isPlain c = true := by
  have bounds : 48 ≤ c.toNat ∧ c.toNat ≤ 57 := by
    simp only [Char.isDigit, Bool.and_eq_true, decide_eq_true_eq] at digit
    exact digit
  have noEscape : c ≠ '\x1b' := by
    rintro rfl
    exact absurd digit (by decide)
  simp only [isPlain, Bool.and_eq_true, decide_eq_true_eq, bne_iff_ne]
  exact ⟨by omega, noEscape⟩

theorem Plain.isEncodable {s : String} (h : Plain s) : isEncodable s = true := by
  rw [Text.isEncodable, points_plain fun c hc => (h.mem c hc).1]
  simp [Point.isHalf]

/-- Without an escape there is no control sequence. -/
theorem dropControls_of_not_mem {s : List Char} (free : '\x1b' ∉ s) : dropControls s = s := by
  induction s with
  | nil => rw [dropControls]
  | cons c s ih =>
    have other : c ≠ '\x1b' := fun same => free (same ▸ List.mem_cons_self)
    rw [dropControls, if_neg other, ih fun escape => free (List.mem_cons_of_mem c escape)]

theorem Plain.withoutControls {s : String} (h : Plain s) : withoutControls s = s := by
  rw [Text.withoutControls, dropControls_of_not_mem fun escape => (h.mem _ escape).2 rfl, String.ofList_toList]

end InstallWatch.Text
