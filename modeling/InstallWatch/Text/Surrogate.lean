/-!
Texts that may hold half of a surrogate pair without the other half. No character stands for a half, so in a
`String` each half is written as a character of a block of its own, and a genuine character of that block behind
a mark. `points` reads what `ofPoints` writes.
-/

namespace InstallWatch.Text

/-- A character, or half of a surrogate pair by its place among the halves. -/
inductive Point where
  | char (c : Char)
  | half (h : Fin 0x800)
deriving DecidableEq, Repr

namespace Point

/-- The code point. -/
def code : Point → Nat
  | char c => c.toNat
  | half h => 0xD800 + h

/-- The point of a number. -/
def ofNat? (n : Nat) : Option Point :=
  if h : 0xD800 ≤ n ∧ n < 0xE000 then some (half ⟨n - 0xD800, by omega⟩)
  else if n < 0x110000 then some (char (Char.ofNat n))
  else none

def isHalf : Point → Bool
  | half _ => true
  | char _ => false

end Point

/-- The first of the characters that stand for halves. -/
def firstHalf : Nat := 0x10D800

/-- The mark in front of a genuine character. -/
def genuineMark : Char := Char.ofNat 0x10D7FF

/-- The characters of the block, and the mark. -/
def isReserved (c : Char) : Bool := firstHalf ≤ c.toNat + 1 && c.toNat < firstHalf + 0x800

/-- A genuine character as it is written. -/
def genuine (c : Char) : List Char := if isReserved c then [genuineMark, c] else [c]

def ofPoint : Point → List Char
  | .char c => genuine c
  | .half h => [Char.ofNat (firstHalf + h)]

def ofPoints (ps : List Point) : List Char := ps.flatMap ofPoint

/-- Characters that are all genuine, as they are written. -/
def ofChars (s : List Char) : List Char := s.flatMap genuine

/-- The half that a character stands for, if it does. -/
def half? (c : Char) : Option (Fin 0x800) :=
  if h : firstHalf ≤ c.toNat ∧ c.toNat < firstHalf + 0x800 then
    some ⟨c.toNat - firstHalf, by omega⟩
  else none

/-- What a text holds. -/
def points : List Char → List Point
  | [] => []
  | [c] => match half? c with
    | some h => [.half h]
    | none => [.char c]
  | c :: d :: s =>
    if c = genuineMark then .char d :: points s
    else match half? c with
      | some h => .half h :: points (d :: s)
      | none => .char c :: points (d :: s)

/-- The characters of a text that holds no halves. -/
def chars? (s : List Char) : Option (List Char) :=
  (points s).mapM fun p => match p with
    | .char c => some c
    | .half _ => none

/-- How far the first run of halves is from the start, and its halves. -/
def firstHalves (ps : List Point) : Nat × List Point :=
  let whole := ps.takeWhile (!·.isHalf)
  (whole.length, (ps.drop whole.length).takeWhile (·.isHalf))

theorem toNat_halfChar (h : Fin 0x800) : (Char.ofNat (firstHalf + h)).toNat = firstHalf + h := by
  have hv : (firstHalf + h.val).isValidChar := Or.inr ⟨by unfold firstHalf; omega, by unfold firstHalf; omega⟩
  rw [Char.ofNat, dif_pos hv]
  rfl

theorem half?_halfChar (h : Fin 0x800) : half? (Char.ofNat (firstHalf + h)) = some h := by
  have hn := toNat_halfChar h
  have hc : firstHalf ≤ (Char.ofNat (firstHalf + h)).toNat ∧
      (Char.ofNat (firstHalf + h)).toNat < firstHalf + 0x800 := by omega
  rw [half?, dif_pos hc]
  exact congrArg some (Fin.ext (by show _ - firstHalf = _; omega))

theorem half?_of_not_reserved {c : Char} (h : isReserved c = false) : half? c = none := by
  rw [half?, dif_neg]
  intro hc
  simp [isReserved] at h
  omega

theorem ne_genuineMark_of_not_reserved {c : Char} (h : isReserved c = false) : c ≠ genuineMark := by
  rintro rfl
  exact absurd h (by decide)

theorem halfChar_ne_genuineMark (h : Fin 0x800) : Char.ofNat (firstHalf + h) ≠ genuineMark := by
  intro e
  have := toNat_halfChar h
  rw [e] at this
  have hm : genuineMark.toNat = 0x10D7FF := by decide
  unfold firstHalf at this
  omega

theorem points_ofPoint_append (p : Point) (s : List Char) :
    points (ofPoint p ++ s) = p :: points s := by
  cases p with
  | char c =>
    by_cases h : isReserved c = true
    · simp [ofPoint, genuine, h, points]
    · have h : isReserved c = false := by simpa using h
      cases s with
      | nil => simp [ofPoint, genuine, h, points, half?_of_not_reserved h]
      | cons d s =>
        simp [ofPoint, genuine, h, points, half?_of_not_reserved h, ne_genuineMark_of_not_reserved h]
  | half h =>
    cases s with
    | nil => simp [ofPoint, points, half?_halfChar]
    | cons d s => simp [ofPoint, points, half?_halfChar, halfChar_ne_genuineMark]

/-- Whatever a text is made of can be read from it. -/
theorem points_ofPoints (ps : List Point) : points (ofPoints ps) = ps := by
  induction ps with
  | nil => rfl
  | cons p ps ih => rw [ofPoints, List.flatMap_cons, points_ofPoint_append, ← ofPoints, ih]

end InstallWatch.Text
