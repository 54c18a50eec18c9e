import InstallWatch.Text.Surrogate
import InstallWatch.Yaml.Cursor

/-!
Quoted scalars. Single quotes know one escape, the doubled quote; double quotes know many. Line breaks inside
are folded, and a document marker may not start a line.
-/

namespace InstallWatch.Yaml
open Cursor

def simpleEscape? : Char → Option Char
  | '0' => some '\x00'
  | 'a' => some '\x07'
  | 'b' => some '\x08'
  | 't' => some '\t'
  | '\t' => some '\t'
  | 'n' => some '\n'
  | 'v' => some '\x0b'
  | 'f' => some '\x0c'
  | 'r' => some '\r'
  | 'e' => some '\x1b'
  | ' ' => some ' '
  | '"' => some '"'
  | '\\' => some '\\'
  | '/' => some '/'
  | 'N' => some '\x85'
  | '_' => some '\xa0'
  | 'L' => some '\u2028'
  | 'P' => some '\u2029'
  | _ => none

/-- The number of digits of a numeric escape. -/
def escapeWidth? : Char → Option Nat
  | 'x' => some 2
  | 'u' => some 4
  | 'U' => some 8
  | _ => none

/-- The character of a number, or the half of a surrogate pair. -/
def pointOfCode (n : Nat) : Except Stop Text.Point :=
  match Text.Point.ofNat? n with
  | some p => .ok p
  | none => .error (if n < Nat.pow 2 31 then .noCharacter else .hugeCharacter)

/-- The line breaks at the start of a line inside quotes, with the blanks around them, behind breaks of which the last
comes first. -/
def quotedBreaks : Nat → Cursor → List Char → Except Stop (List Char × Cursor)
  | 0, c, done => .ok (done.reverse, c)
  | fuel + 1, c, done =>
    if c.atMarker then .error .malformed
    else
      let c := c.skipWhile fun ch => ch = ' ' || ch = '\t'
      if isBreak c.peek then
        let (b, c) := c.lineBreak
        quotedBreaks fuel c (b.reverse ++ done)
      else .ok (done.reverse, c)

/-- Blanks inside quotes; a line break among them is folded. -/
def quotedBlanks (fuel : Nat) (c : Cursor) : Except Stop (List Char × Cursor) :=
  let (blanks, c) := c.takeWhile fun ch => ch = ' ' || ch = '\t'
  if c.rest.isEmpty then .error .malformed
  else if isBreak c.peek then do
    let (b, c) := c.lineBreak
    let (bs, c) ← quotedBreaks fuel c []
    return ((if b ≠ ['\n'] then b else if bs.isEmpty then [' '] else []) ++ bs, c)
  else .ok (blanks, c)

/-- The escape behind a backslash. -/
def quotedEscape (fuel : Nat) (c : Cursor) : Except Stop (List Char × Cursor) :=
  match simpleEscape? c.peek with
  | some ch => .ok ([ch], c.step)
  | none => match escapeWidth? c.peek with
    | some width =>
      let digits := c.rest.tail.take width
      match if digits.length = width then digits.mapM Text.hexValue? else none with
      | none => .error .malformed
      | some ds => do
        let p ← pointOfCode (ds.foldl (fun n d => 16 * n + d) 0)
        return (Text.ofPoint p, c.advance (1 + width))
    | none =>
      if isBreak c.peek then quotedBreaks fuel c.lineBreak.2 [] else .error .malformed

/-- What stands between the quotes, up to the closing one, in the form that halves of surrogate pairs need. It comes
behind what has been read, of which the last character comes first. -/
def quotedText (double : Bool) : Nat → Cursor → List Char → Except Stop (List Char × Cursor)
  | 0, _, _ => .error .malformed
  | fuel + 1, c, done =>
    match c.rest with
    | [] => .error .malformed
    | ch :: s =>
      if ch = '\'' && !double && s.head? = some '\'' then
        quotedText double fuel (c.advance 2) ('\'' :: done)
      else if ch = (if double then '"' else '\'') then .ok (done.reverse, c.step)
      else if ch = '\\' && double then do
        let (chars, c) ← quotedEscape fuel c.step
        quotedText double fuel c (chars.reverse ++ done)
      else if ch = ' ' || ch = '\t' || isBreak ch then do
        let (chars, c) ← quotedBlanks fuel c
        quotedText double fuel c (chars.reverse ++ done)
      else
        let (chars, c) := c.takeWhile fun x => !(isBlankOrEnd x || x = '\'' || x = '"' || x = '\\')
        if chars.isEmpty then quotedText double fuel c.step (ch :: done)
        else quotedText double fuel c ((Text.ofChars chars).reverse ++ done)

def quotedScalar (fuel : Nat) (c : Cursor) : Except Stop (String × Cursor) := do
  let (s, c) ← quotedText (c.peek = '"') fuel c.step []
  return (String.ofList s, c)

end InstallWatch.Yaml
