import InstallWatch.Text.Utf8
import InstallWatch.Yaml.Cursor
import InstallWatch.Yaml.Token

/-!
The marks that may stand in front of a node, anchors and tags, and the directives in front of a document.
-/

namespace InstallWatch.Yaml
open Cursor

def isNameChar (c : Char) : Bool := c.isAlphanum || c = '-' || c = '_'

def isUriChar (c : Char) : Bool := c.isAlphanum || "-;/?:@&=+$,_.!~*'()[]%".toList.contains c

/-- The name of an anchor or alias, behind its sign. -/
def anchorName (c : Cursor) : Except Stop (String × Cursor) :=
  let (name, c) := c.step.takeWhile isNameChar
  if name.isEmpty then .error .malformed
  else if isBlankOrEnd c.peek || "?:,]\x7d%@`".toList.contains c.peek then .ok (String.ofList name, c)
  else .error .malformed

/-- The bytes of a run of percent signs with two digits each. -/
def uriBytes : List Char → Option (Text.Bytes × Nat)
  | '%' :: a :: b :: s => do
    let x ← Text.hexValue? a
    let y ← Text.hexValue? b
    let (more, n) ← uriBytes s
    return (UInt8.ofNat (16 * x + y) :: more, n + 3)
  | '%' :: _ => none
  | _ => some ([], 0)

/-- The characters of a tag, percent signs read as bytes of UTF-8. -/
def uriText : Nat → Cursor → List Char → Except Stop (List Char × Cursor)
  | 0, c, done => .ok (done, c)
  | fuel + 1, c, done =>
    let (chars, c) := c.takeWhile fun ch => isUriChar ch && ch ≠ '%'
    let done := done ++ chars
    if c.peek = '%' then
      match uriBytes c.rest with
      | none => .error .malformed
      | some (bytes, n) => match Text.decodeUtf8 bytes with
        | none => .error .malformed
        | some s => uriText fuel (c.advance n) (done ++ s)
    else .ok (done, c)

def tagUri (c : Cursor) : Except Stop (String × Cursor) := do
  let (s, c') ← uriText (c.rest.length + 1) c []
  if c'.index = c.index then .error .malformed
  return (String.ofList s, c')

/-- A handle: one exclamation mark, or a name between two. -/
def tagHandle (c : Cursor) : Except Stop (String × Cursor) :=
  if c.peek ≠ '!' then .error .malformed
  else if c.peekAt 1 = ' ' then .ok ("!", c.step)
  else
    let (name, c') := c.step.takeWhile isNameChar
    if c'.peek = '!' then .ok (String.ofList ('!' :: name ++ ['!']), c'.step) else .error .malformed

/-- A tag: verbatim in angle brackets, the lone mark, or perhaps a handle and the rest. -/
def tagText (c : Cursor) : Except Stop (TagText × Cursor) := do
  let (t, c) ←
    if c.peekAt 1 = '<' then do
      let (uri, c) ← tagUri (c.advance 2)
      if c.peek ≠ '>' then .error .malformed
      pure (TagText.mk none uri, c.step)
    else if isBlankOrEnd (c.peekAt 1) then pure (TagText.mk none "!", c.step)
    else do
      let word := c.rest.tail.takeWhile fun ch => !isSpaceOrEnd ch
      let (handle, c) ← if word.contains '!' then tagHandle c else pure ("!", c.step)
      let (uri, c) ← tagUri c
      pure (TagText.mk (some handle) uri, c)
  if isSpaceOrEnd c.peek then return (t, c) else .error .malformed

def versionNumber (c : Cursor) : Except Stop (Nat × Cursor) :=
  let (ds, c) := c.takeWhile Char.isDigit
  if ds.isEmpty then .error .malformed
  else if Numeral.maxDecimalDigits < ds.length then .error (.longVersion ds.length)
  else .ok (ds.foldl (fun n d => 10 * n + (d.toNat - '0'.toNat)) 0, c)

/-- What stands behind the percent sign, to the end of its line. -/
def directive (c : Cursor) : Except Stop (Directive × Cursor) := do
  let (name, c) := c.step.takeWhile isNameChar
  if name.isEmpty || !isSpaceOrEnd c.peek then .error .malformed
  if name = "YAML".toList then
    let (major, c) ← versionNumber c.skipSpaces
    if c.peek ≠ '.' then .error .malformed
    let (_, c) ← versionNumber c.step
    if !isSpaceOrEnd c.peek then .error .malformed
    return (.version major, ← c.endLine)
  else if name = "TAG".toList then
    let (handle, c) ← tagHandle c.skipSpaces
    if c.peek ≠ ' ' then .error .malformed
    let (leader, c) ← tagUri c.skipSpaces
    if !isSpaceOrEnd c.peek then .error .malformed
    return (.tag handle leader, ← c.endLine)
  else return (.other, ← (c.skipWhile (!isBreak ·)).endLine)

end InstallWatch.Yaml
