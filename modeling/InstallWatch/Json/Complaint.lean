import InstallWatch.Numeral

/-!
What can be wrong with a JSON text, and where: the complaint, and the place as line, column and offset.
-/

namespace InstallWatch.Json

inductive Complaint where
  | value
  | memberName
  | colon
  | comma
  | openText
  | controlCharacter
  | escape
  | unicodeEscape
  | trailing
  | byteOrderMark
deriving DecidableEq

def Complaint.phrase : Complaint → String
  | value => "Expecting value"
  | memberName => "Expecting property name enclosed in double quotes"
  | colon => "Expecting ':' delimiter"
  | comma => "Expecting ',' delimiter"
  | openText => "Unterminated string starting at"
  | controlCharacter => "Invalid control character at"
  | escape => "Invalid \\escape"
  | unicodeEscape => "Invalid \\uXXXX escape"
  | trailing => "Extra data"
  | byteOrderMark => "Unexpected UTF-8 BOM (decode using utf-8-sig)"

inductive Fault where
  /-- A complaint about the text from the given offset on. -/
  | malformed (complaint : Complaint) (offset line column : Nat)
  /-- A whole number with more digits than are read. -/
  | tooLong (digits : Nat)
  /-- Lists and objects inside each other, deeper than is read. -/
  | tooDeep
deriving DecidableEq

/-- The place of an offset: lines and columns count from one. -/
def Fault.locate (s : List Char) (complaint : Complaint) (offset : Nat) : Fault :=
  let before := s.take offset
  let lastLine := before.reverse.takeWhile (· ≠ '\n')
  .malformed complaint offset (before.count '\n' + 1) (lastLine.length + 1)

def Fault.message : Fault → String
  | malformed complaint offset line column =>
    complaint.phrase ++ ": line " ++ toString line ++ " column " ++ toString column ++
      " (char " ++ toString offset ++ ")"
  | tooLong digits => Numeral.lengthRefusal digits
  | tooDeep => "maximum recursion depth exceeded"

end InstallWatch.Json
