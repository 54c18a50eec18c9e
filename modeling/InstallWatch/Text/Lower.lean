/-!
Lower case of ASCII letters; every other character stands for itself. The words this library compares
regardless of case are ASCII words, and no other character has one of their letters as its lower case.
-/

namespace InstallWatch.Text

def lower (s : List Char) : List Char := s.map Char.toLower

def lowered (s : String) : String := String.ofList (lower s.toList)

end InstallWatch.Text
