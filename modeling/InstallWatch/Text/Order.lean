import InstallWatch.Text.Surrogate

/-!
Texts in the order of their code points, halves of surrogate pairs among them.
-/

namespace InstallWatch.Text

def codes (s : String) : List Nat := (points s.toList).map Point.code

/-- Whether a text stands before another one. Two ways to write the same code points have an order as well. -/
def precedes (s t : String) : Bool := codes s < codes t || (codes s = codes t && s ≤ t)

def insertSorted (s : String) : List String → List String
  | [] => [s]
  | t :: ts => if precedes s t then s :: t :: ts else t :: insertSorted s ts

/-- The same texts, least first. -/
def sorted : List String → List String
  | [] => []
  | s :: ss => insertSorted s (sorted ss)

end InstallWatch.Text
