import InstallWatch.Calendar
import InstallWatch.Numeral
import InstallWatch.Text.Quoted

/-!
Why a node of a YAML document stands for no data.
-/

namespace InstallWatch.Yaml

inductive Flaw where
  /-- The tag is unknown, the node is of the wrong kind for it, or a key is no scalar. -/
  | malformed
  /-- A flag that is none of the words for one. -/
  | unknownWord
  /-- A time that does not look like one. -/
  | notTime
  /-- A time in a mapping's value key. -/
  | timeInMapping
  /-- A number without digits. -/
  | emptyNumber
  /-- Mappings that lead from one to the next, by merge keys or for a text, further than there is room. -/
  | tooFar
  /-- A place in a number of sixties that is beyond the range of numbers. -/
  | hugePlace
  /-- A whole number that is none in its base. -/
  | notWhole (base : Nat) (text : List Char) (fault : Numeral.Fault)
  | notNumber (text : List Char)
  | noSuchTime (fault : CalendarFault)
deriving DecidableEq

/-- How much of a text is shown that is no whole number. -/
def shownLength : Nat := 200

/-- What to say of a flaw, as far as there is something to say. -/
def Flaw.message? : Flaw → Option String
  | notWhole base text .malformed =>
    some ("invalid literal for int() with base " ++ toString base ++ ": " ++
      String.ofList ((Text.quotedChars (String.ofList text)).take shownLength))
  | notWhole _ _ (.tooLong digits) => some (Numeral.lengthRefusal digits)
  | notNumber text => some ("could not convert string to float: " ++ Text.quoted (String.ofList text))
  | noSuchTime fault => some fault.message
  | _ => none

end InstallWatch.Yaml
