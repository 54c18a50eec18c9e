import InstallWatch.Yaml.Cursor

/-!
Plain scalars: words without quotes, over several lines if the lines are indented enough. Line breaks between
words are folded.
-/

namespace InstallWatch.Yaml
open Cursor

/-- Where a plain scalar may end: a blank, a colon before a blank, and the marks of flow collections inside
one. -/
def endsPlain (inFlow : Bool) (ch next : Char) : Bool :=
  isBlankOrEnd ch ||
    (ch = ':' && (isBlankOrEnd next || (inFlow && ",[]\x7b\x7d".toList.contains next))) ||
    (inFlow && ",?[]\x7b\x7d".toList.contains ch)

/-- The length of the word that starts a text. -/
def plainLength (inFlow : Bool) : List Char → Nat
  | [] => 0
  | ch :: s => if endsPlain inFlow ch (s.headD endOfText) then 0 else plainLength inFlow s + 1

/-- Spaces and line breaks, behind breaks of which the last comes first; nothing if a document marker starts a
line. -/
def plainBreaks : Nat → Cursor → List Char → Option (List Char) × Cursor
  | 0, c, done => (some done.reverse, c)
  | fuel + 1, c, done =>
    if c.peek = ' ' then plainBreaks fuel c.step done
    else if isBreak c.peek then
      let (b, c) := c.lineBreak
      if c.atMarker then (none, c) else plainBreaks fuel c (b.reverse ++ done)
    else (some done.reverse, c)

/-- What stands between two words of a plain scalar, the place behind it, and whether a line ended. -/
def plainGap (fuel : Nat) (c : Cursor) : Option (List Char) × Cursor × Bool :=
  let (spaces, c) := c.takeWhile (· = ' ')
  if isBreak c.peek then
    let (b, c) := c.lineBreak
    if c.atMarker then (none, c, true)
    else
      let (breaks, c) := plainBreaks fuel c []
      (breaks.map fun bs => (if b ≠ ['\n'] then b else if bs.isEmpty then [' '] else []) ++ bs, c, true)
  else (if spaces.isEmpty then none else some spaces, c, false)

/-- The words of a plain scalar from here on, behind those that have been read, of which the last character comes
first. The gap in front of the next word counts if there is one. The flag says whether the last thing read was a line
break, after which a simple key may start. -/
def plainWords (inFlow : Bool) (indent : Int) :
    Nat → Cursor → (done gap : List Char) → Bool → List Char × Cursor × Bool
  | 0, c, done, _, broken => (done.reverse, c, broken)
  | fuel + 1, c, done, gap, broken =>
    let n := if c.peek = '#' then 0 else plainLength inFlow c.rest
    if n = 0 then (done.reverse, c, broken)
    else
      let done := (c.rest.take n).reverse ++ (gap.reverse ++ done)
      match plainGap fuel (c.advance n) with
      | (none, c, broken) => (done.reverse, c, broken)
      | (some gap, c, broken) =>
        if c.peek = '#' || (!inFlow && (c.column : Int) < indent) then (done.reverse, c, broken)
        else plainWords inFlow indent fuel c done gap broken

end InstallWatch.Yaml
