import InstallWatch.Numeral
import InstallWatch.Text.Ranges

/-!
Places in a YAML text: what is left of it, and the line and column that indentation is measured by.
-/

namespace InstallWatch.Yaml

/-- Why a text cannot be cut into tokens, or tokens cannot be put together. -/
inductive Stop where
  | malformed
  /-- An escape names a number that is no character. -/
  | noCharacter
  /-- An escape names a number beyond the range of machine words. -/
  | hugeCharacter
  /-- A version's number with so many digits. -/
  | longVersion (digits : Nat)
  /-- Nodes inside each other, deeper than is read. -/
  | tooDeep
deriving DecidableEq

def isBreak (c : Char) : Bool :=
  c = '\n' || c = '\r' || c = '\x85' || c = '\u2028' || c = '\u2029'

/-- The end of the text reads as the character zero, which no text may hold. -/
def endOfText : Char := '\x00'

def isBreakOrEnd (c : Char) : Bool := isBreak c || c = endOfText

def isSpaceOrEnd (c : Char) : Bool := c = ' ' || isBreakOrEnd c

def isBlankOrEnd (c : Char) : Bool := c = '\t' || isSpaceOrEnd c

/-- The characters that a text may hold. -/
def isAllowed (c : Char) : Bool :=
  c = '\t' || c = '\n' || c = '\r' || c = '\x85' ||
    Text.inRanges [(0x20, 0x7E), (0xA0, 0xD7FF), (0xE000, 0xFFFD), (0x10000, 0x10FFFF)] c

structure Cursor where
  index : Nat
  line : Nat
  column : Nat
  rest : List Char

namespace Cursor

def start (s : List Char) : Cursor := ⟨0, 0, 0, s⟩

def peek (c : Cursor) : Char := c.rest.headD endOfText

def peekAt (c : Cursor) (n : Nat) : Char := c.rest.getD n endOfText

/-- One character further. A byte order mark takes no column. -/
def step (c : Cursor) : Cursor :=
  match c.rest with
  | [] => c
  | ch :: s =>
    if isBreak ch && !(ch = '\r' && s.head? = some '\n') then ⟨c.index + 1, c.line + 1, 0, s⟩
    else ⟨c.index + 1, c.line, if ch = '\uFEFF' then c.column else c.column + 1, s⟩

def advance (c : Cursor) : Nat → Cursor
  | 0 => c
  | n + 1 => c.step.advance n

/-- The characters up to the first that is not of the class, and the place behind them. -/
def takeWhile (c : Cursor) (p : Char → Bool) : List Char × Cursor :=
  let s := c.rest.takeWhile p
  (s, c.advance s.length)

def skipWhile (c : Cursor) (p : Char → Bool) : Cursor := (c.takeWhile p).2

def skipSpaces (c : Cursor) : Cursor := c.skipWhile (· = ' ')

/-- A comment, if one starts here. -/
def skipComment (c : Cursor) : Cursor := if c.peek = '#' then c.skipWhile (!isBreak ·) else c

/-- The line break that starts here, as the characters it stands for: every break of the ASCII and Latin
kinds is one line feed. -/
def lineBreak (c : Cursor) : List Char × Cursor :=
  match c.rest with
  | '\r' :: '\n' :: _ => (['\n'], c.advance 2)
  | ch :: _ =>
    if ch = '\r' || ch = '\n' || ch = '\x85' then (['\n'], c.step)
    else if ch = '\u2028' || ch = '\u2029' then ([ch], c.step)
    else ([], c)
  | [] => ([], c)

/-- Three hyphens or three points, and then a blank. -/
def atMarker (c : Cursor) : Bool :=
  (['-', '-', '-'].isPrefixOf c.rest || ['.', '.', '.'].isPrefixOf c.rest) && isBlankOrEnd (c.peekAt 3)

/-- The rest of a line that must hold nothing but a comment. -/
def endLine (c : Cursor) : Except Stop Cursor :=
  let c := c.skipSpaces.skipComment
  if isBreakOrEnd c.peek then .ok c.lineBreak.2 else .error .malformed

end InstallWatch.Yaml.Cursor
