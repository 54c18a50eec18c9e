/-!
Cutting the characters of a class off the ends of a text.
-/

namespace InstallWatch.Text

def trimStart (cut : Char → Bool) (s : List Char) : List Char := s.dropWhile cut

def trimEnd (cut : Char → Bool) (s : List Char) : List Char := (s.reverse.dropWhile cut).reverse

/-- The text without the characters of the class at either end. -/
def trim (cut : Char → Bool) (s : List Char) : List Char := trimEnd cut (trimStart cut s)

def trimmed (cut : Char → Bool) (s : String) : String := String.ofList (trim cut s.toList)

theorem trimStart_eq_self {cut : Char → Bool} {c : Char} {s : List Char} (h : cut c = false) :
    trimStart cut (c :: s) = c :: s := by
  simp [trimStart, h]

theorem trimEnd_append_of_not {cut : Char → Bool} {s : List Char} {c : Char} (h : cut c = false) :
    trimEnd cut (s ++ [c]) = s ++ [c] := by
  simp [trimEnd, h]

/-- A text without cut characters keeps all of itself. -/
theorem trim_of_all_not {cut : Char → Bool} {s : List Char} (h : ∀ c ∈ s, cut c = false) :
    trim cut s = s := by
  have keep : ∀ t : List Char, (∀ c ∈ t, cut c = false) → t.dropWhile cut = t := by
    intro t ht
    cases t with
    | nil => rfl
    | cons c t => simp [ht c (by simp)]
  unfold trim trimEnd trimStart
  rw [keep s h, keep s.reverse (by simpa using h), List.reverse_reverse]

/-- The pieces of a text between the given character; one piece more than it has separators. -/
def splitAt (sep : Char) : List Char → List (List Char)
  | [] => [[]]
  | c :: s =>
    if c = sep then [] :: splitAt sep s
    else match splitAt sep s with
      | [] => [[c]]
      | piece :: more => (c :: piece) :: more

end InstallWatch.Text
