import InstallWatch.Text.Surrogate
import InstallWatch.Yaml.Cursor

/-!
Block scalars: lines as they are (`|`) or folded (`>`), of one indentation, with a choice of what becomes of
the line breaks at the end.
-/

namespace InstallWatch.Yaml
open Cursor

/-- What becomes of the line breaks at the end: all go, one stays, all stay. -/
inductive Chomping where
  | strip
  | clip
  | keep
deriving DecidableEq

def chomping? : Char → Option Chomping
  | '+' => some .keep
  | '-' => some .strip
  | _ => none

/-- The indentation that a header asks for, from one to nine. -/
def indentation? (ch : Char) : Except Stop (Option Nat) :=
  if ch = '0' then .error .malformed
  else if '1' ≤ ch ∧ ch ≤ '9' then .ok (some (ch.toNat - '0'.toNat))
  else .ok none

/-- The signs behind the style, in either order. -/
def blockHeader (c : Cursor) : Except Stop (Chomping × Option Nat × Cursor) := do
  let (chomping, indentation, c) ← match chomping? c.peek with
    | some ch => do
      let c := c.step
      match ← indentation? c.peek with
      | some n => pure (ch, some n, c.step)
      | none => pure (ch, none, c)
    | none => do
      match ← indentation? c.peek with
      | some n =>
        let c := c.step
        match chomping? c.peek with
        | some ch => pure (ch, some n, c.step)
        | none => pure (.clip, some n, c)
      | none => pure (.clip, none, c)
  if isSpaceOrEnd c.peek then return (chomping, indentation, ← c.endLine) else .error .malformed

/-- Leading lines of nothing but spaces: their breaks, behind those of which the last comes first, and the widest of
them. -/
def blockLead : Nat → Cursor → List Char → Nat → List Char × Nat × Cursor
  | 0, c, breaks, widest => (breaks.reverse, widest, c)
  | fuel + 1, c, breaks, widest =>
    if c.peek = ' ' then
      let c := c.step
      blockLead fuel c breaks (max widest c.column)
    else if isBreak c.peek then
      let (b, c) := c.lineBreak
      blockLead fuel c (b.reverse ++ breaks) widest
    else (breaks.reverse, widest, c)

/-- Spaces up to a column. -/
def skipIndent (indent : Nat) (c : Cursor) : Cursor :=
  c.advance ((c.rest.take (indent - c.column)).takeWhile (· = ' ')).length

/-- Line breaks, with at most the indentation in front of each, behind those of which the last comes first. -/
def blockBreaks (indent : Nat) : Nat → Cursor → List Char → List Char × Cursor
  | 0, c, breaks => (breaks.reverse, c)
  | fuel + 1, c, breaks =>
    let c := skipIndent indent c
    if isBreak c.peek then
      let (b, c) := c.lineBreak
      blockBreaks indent fuel c (b.reverse ++ breaks)
    else (breaks.reverse, c)

/-- The lines of the scalar: their text, behind that of which the last character comes first, the last line's break,
and the breaks behind it. -/
def blockLines (folded : Bool) (indent : Nat) : Nat → Cursor → List Char → List Char → List Char →
    List Char × List Char × List Char × Cursor
  | 0, c, done, last, breaks => (done.reverse, last, breaks, c)
  | fuel + 1, c, done, last, breaks =>
    if c.column = indent && !c.rest.isEmpty then
      let isWord (ch : Char) : Bool := !(ch = ' ' || ch = '\t')
      let leads := isWord c.peek
      let (line, c) := c.takeWhile (!isBreak ·)
      let (last, c) := c.lineBreak
      let done := line.reverse ++ (breaks.reverse ++ done)
      let (breaks, c) := blockBreaks indent fuel c []
      if c.column = indent && !c.rest.isEmpty then
        let glue := if folded && last = ['\n'] && leads && isWord c.peek
          then (if breaks.isEmpty then [' '] else []) else last
        blockLines folded indent fuel c (glue.reverse ++ done) last breaks
      else (done.reverse, last, breaks, c)
    else (done.reverse, last, breaks, c)

/-- A block scalar from its style sign on, inside a block of the given indentation. -/
def blockScalar (fuel : Nat) (outer : Int) (c : Cursor) : Except Stop (String × Cursor) := do
  let folded : Bool := c.peek = '>'
  let (chomping, indentation, c) ← blockHeader c.step
  let least := max 1 (outer + 1).toNat
  let (indent, breaks, c) := match indentation with
    | none =>
      let (breaks, widest, c) := blockLead fuel c [] 0
      (max least widest, breaks, c)
    | some n =>
      let indent := least + n - 1
      let (breaks, c) := blockBreaks indent fuel c []
      (indent, breaks, c)
  let (text, last, breaks, c) := blockLines folded indent fuel c [] [] breaks
  let tail := match chomping with
    | .strip => []
    | .clip => last
    | .keep => last ++ breaks
  return (String.ofList (Text.ofChars (text ++ tail)), c)

end InstallWatch.Yaml
