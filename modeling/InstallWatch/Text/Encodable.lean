import InstallWatch.Text.Quoted

/-!
Which texts can be written as UTF-8: those without halves of surrogate pairs. What to say of the others, and how they
are written where halves may be escaped.
-/

namespace InstallWatch.Text

def isEncodable (s : String) : Bool := (points s.toList).all (!·.isHalf)

/-- What to say of a text that cannot be written. -/
def encodingRefusal (s : String) : String :=
  let (position, halves) := firstHalves (points s.toList)
  let which := match halves with
    | [.half h] => "character '" ++ String.ofList (halfText h) ++ "' in position " ++ toString position
    | hs => "characters in position " ++ toString position ++ "-" ++ toString (position + hs.length - 1)
  "'utf-8' codec can't encode " ++ which ++ ": surrogates not allowed"

/-- The text with escapes for its halves. -/
def withHalvesEscaped (s : String) : String :=
  String.ofList (ofPoints ((points s.toList).flatMap fun p => match p with
    | .half h => (halfText h).map .char
    | .char c => [.char c]))

end InstallWatch.Text
