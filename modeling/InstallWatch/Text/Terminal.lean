/-!
Control sequences of terminals, which set colours and move the cursor: an escape character, a bracket, parameters,
and a letter. A text that no terminal shows is written without them.
-/

namespace InstallWatch.Text

/-- Digits, and the marks that stand between and before them. -/
def isParameter (c : Char) : Bool := c.isDigit || c = ';' || c = '?'

/-- What follows the rest of a control sequence, if the characters behind an escape are one. -/
def afterControl? : List Char → Option (List Char)
  | '[' :: s => match s.dropWhile isParameter with
    | c :: rest => if c.isAlpha then some rest else none
    | [] => none
  | _ => none

theorem length_afterControl? {s rest : List Char} (h : afterControl? s = some rest) :
    rest.length < s.length := by
  unfold afterControl? at h
  split at h
  · rename_i t
    split at h
    · rename_i c u hu
      have hle := (List.dropWhile_sublist isParameter (l := t)).length_le
      rw [hu] at hle
      split at h
      · cases h
        simp at hle ⊢
        omega
      · cases h
    · cases h
  · cases h

/-- The characters without control sequences. -/
def dropControls : List Char → List Char
  | [] => []
  | c :: s =>
    if c = '\x1b' then
      match h : afterControl? s with
      | some rest =>
        have := length_afterControl? h
        dropControls rest
      | none => c :: dropControls s
    else c :: dropControls s
termination_by s => s.length

/-- The text without control sequences. -/
def withoutControls (s : String) : String := String.ofList (dropControls s.toList)

end InstallWatch.Text
