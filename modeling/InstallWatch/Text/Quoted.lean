import InstallWatch.Text.Printable
import InstallWatch.Text.Surrogate

/-!
Texts in quotes, as messages show them: one line of printable characters, whatever the text holds.
-/

namespace InstallWatch.Text

/-- How one character stands between quotes of the given kind. -/
def escaped (quote : Char) (c : Char) : List Char :=
  if c = quote ∨ c = '\\' then ['\\', c]
  else if c = '\n' then ['\\', 'n']
  else if c = '\r' then ['\\', 'r']
  else if c = '\t' then ['\\', 't']
  else if isPrintable c then [c]
  else if c.toNat < 0x100 then '\\' :: 'x' :: hexDigits 2 c.toNat
  else if c.toNat < 0x10000 then '\\' :: 'u' :: hexDigits 4 c.toNat
  else '\\' :: 'U' :: hexDigits 8 c.toNat

/-- Single quotes, but double ones around a text that holds single ones and no double ones. -/
def quoteFor (s : List Char) : Char :=
  if s.contains '\'' && !s.contains '"' then '"' else '\''

/-- Half of a surrogate pair as an escape. -/
def halfText (h : Fin 0x800) : List Char := '\\' :: 'u' :: hexDigits 4 (0xD800 + h)

/-- How a point stands between quotes; halves of surrogate pairs do not print. -/
def escapedPoint (quote : Char) : Point → List Char
  | .char c => escaped quote c
  | .half h => halfText h

/-- A text in quotes, as characters that all print. -/
def quotedChars (s : String) : List Char :=
  let q := quoteFor s.toList
  q :: (points s.toList).flatMap (escapedPoint q) ++ [q]

def quoted (s : String) : String := String.ofList (quotedChars s)

end InstallWatch.Text
