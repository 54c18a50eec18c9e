import InstallWatch.Environment
import InstallWatch.Text.Ranges

/-!
References to variables in a text, `$NAME` or `${NAME}`, and their values put in their places. The text is
first cut into pieces, and each piece is then written on its own, so that no value is ever looked at again.
-/

namespace InstallWatch.Environment

inductive Piece where
  | plain (c : Char)
  /-- A reference to a variable, in braces or not. -/
  | reference (name : List Char) (braced : Bool)
deriving DecidableEq

namespace Piece

/-- The piece as it was written. -/
def source : Piece → List Char
  | plain c => [c]
  | reference name false => '$' :: name
  | reference name true => '$' :: '\x7b' :: name ++ ['\x7d']

/-- The reference that the text behind a dollar sign makes: the longest word, or anything in braces. -/
def referenceAt? (s : List Char) : Option Piece :=
  match s with
  | '\x7b' :: t => if t.contains '\x7d' then some (reference (t.takeWhile (· ≠ '\x7d')) true) else none
  | _ =>
    let word := s.takeWhile Text.isWordChar
    if word.isEmpty then none else some (reference word false)

theorem length_source_pos (p : Piece) : 0 < p.source.length := by
  cases p with
  | plain c => simp [source]
  | reference name braced => cases braced <;> simp [source]

/-- The pieces of a text, from left to right. -/
def ofText : List Char → List Piece
  | [] => []
  | '$' :: s =>
    match referenceAt? s with
    | some p => p :: ofText (s.drop (p.source.length - 1))
    | none => plain '$' :: ofText s
  | c :: s => plain c :: ofText s
termination_by s => s.length
decreasing_by all_goals simp only [List.length_drop, List.length_cons]; omega

/-- The value of a variable that is set; everything else as it was written. -/
def write (env : Environment) (p : Piece) : List Char :=
  match p with
  | plain c => [c]
  | reference name _ => match env.get? (String.ofList name) with
    | some value => value.toList
    | none => p.source

end Piece

/-- The text with references to set variables replaced by their values. -/
def expand (env : Environment) (s : List Char) : List Char :=
  (Piece.ofText s).flatMap (Piece.write env)

end InstallWatch.Environment
