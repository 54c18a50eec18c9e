import InstallWatch.Yaml.Token.Block
import InstallWatch.Yaml.Token.Plain
import InstallWatch.Yaml.Token.Property
import InstallWatch.Yaml.Token.Quoted

/-!
Cutting a YAML text into tokens. A word is known to be a key only when the colon behind it is found; the lexer
therefore remembers where keys may have started, one place per nesting of flow collections, and puts the key's
token there afterwards. A key spans at most one line and 1024 characters.
-/

namespace InstallWatch.Yaml
open Cursor

/-- A place where a simple key may have started. -/
structure KeyPlace where
  /-- How many tokens there were. -/
  position : Nat
  index : Nat
  line : Nat
  column : Nat
  /-- Whatever starts at the indentation of a block mapping must turn out to be a key. -/
  required : Bool

structure Lexer where
  cursor : Cursor
  /-- More than there are characters: a bound for every loop over them. -/
  bound : Nat
  /-- The tokens so far, the last one first. -/
  tokens : List Token
  count : Nat
  /-- The depth of flow collections; closing marks that close nothing make it negative. -/
  flow : Int
  indent : Int
  indents : List Int
  keys : List (Int × KeyPlace)
  keyAllowed : Bool

namespace Lexer

def start (s : List Char) : Lexer := ⟨.start s, s.length + 2, [], 0, 0, -1, [], [], true⟩

def inFlow (l : Lexer) : Bool := l.flow ≠ 0

def push (l : Lexer) (t : Token) : Lexer := { l with tokens := t :: l.tokens, count := l.count + 1 }

def goto (l : Lexer) (c : Cursor) : Lexer := { l with cursor := c }

def allow (l : Lexer) (b : Bool) : Lexer := { l with keyAllowed := b }

/-- Puts a token where there were `position` tokens. -/
def insert (l : Lexer) (position : Nat) (t : Token) : Lexer :=
  let after := l.count - position
  { l with tokens := l.tokens.take after ++ t :: l.tokens.drop after, count := l.count + 1 }

/-- Gives up the place of this nesting, which must not be a required key. -/
def dropKey (l : Lexer) : Except Stop Lexer :=
  match l.keys.lookup l.flow with
  | none => .ok l
  | some k =>
    if k.required then .error .malformed
    else .ok { l with keys := l.keys.filter fun e => e.1 ≠ l.flow }

/-- Remembers this place, if a key may start here. -/
def markKey (l : Lexer) : Except Stop Lexer :=
  if l.keyAllowed then do
    let l ← l.dropKey
    let c := l.cursor
    let required : Bool := !l.inFlow && l.indent = c.column
    return { l with keys := (l.flow, ⟨l.count, c.index, c.line, c.column, required⟩) :: l.keys }
  else .ok l

/-- A place on another line, or too far back, starts no key any more. -/
def isStale (l : Lexer) (k : KeyPlace) : Bool :=
  k.line ≠ l.cursor.line || k.index + 1024 < l.cursor.index

def dropStale (l : Lexer) : Except Stop Lexer :=
  if l.keys.any fun e => l.isStale e.2 && e.2.required then .error .malformed
  else .ok { l with keys := l.keys.filter fun e => !l.isStale e.2 }

/-- Closes the blocks that are indented further than the column. -/
def unwind (l : Lexer) (column : Int) : Lexer :=
  if l.inFlow then l
  else
    let closed := (l.indent :: l.indents).takeWhile fun i => column < i
    match (l.indent :: l.indents).drop closed.length with
    | i :: is =>
      { l with
        indent := i, indents := is,
        tokens := List.replicate closed.length Token.blockEnd ++ l.tokens,
        count := l.count + closed.length }
    | [] => l

/-- Opens a block at the column, unless one of this indentation is open. -/
def indentTo (l : Lexer) (column : Int) : Lexer × Bool :=
  if l.indent < column then ({ l with indents := l.indent :: l.indents, indent := column }, true)
  else (l, false)

/-- Blanks, comments and line ends before the next token. -/
def skipToToken : Nat → Lexer → Lexer
  | 0, l => l
  | fuel + 1, l =>
    let c := l.cursor.skipSpaces.skipComment
    if isBreak c.peek then
      let l := l.goto c.lineBreak.2
      skipToToken fuel (if l.inFlow then l else l.allow true)
    else l.goto c

/-- The end of the text or of a document closes every block. -/
def closeAll (l : Lexer) : Except Stop Lexer := do
  return (← (l.unwind (-1)).dropKey).allow false

def marker (l : Lexer) (t : Token) : Except Stop Lexer := do
  let l ← l.closeAll
  return (l.goto (l.cursor.advance 3)).push t

def flowStart (l : Lexer) (t : Token) : Except Stop Lexer := do
  let l ← l.markKey
  return ({ l with flow := l.flow + 1, keyAllowed := true }.goto l.cursor.step).push t

def flowEnd (l : Lexer) (t : Token) : Except Stop Lexer := do
  let l ← l.dropKey
  return ({ l with flow := l.flow - 1, keyAllowed := false }.goto l.cursor.step).push t

def flowEntry (l : Lexer) : Except Stop Lexer := do
  let l ← (l.allow true).dropKey
  return (l.goto l.cursor.step).push .flowEntry

/-- Opens a block of the kind at this column, where a new block may start. -/
def openBlock (l : Lexer) (t : Token) : Except Stop Lexer :=
  if l.inFlow then .ok l
  else if !l.keyAllowed then .error .malformed
  else match l.indentTo l.cursor.column with
    | (l, true) => .ok (l.push t)
    | (l, false) => .ok l

def blockEntry (l : Lexer) : Except Stop Lexer := do
  let l ← (← l.openBlock .blockSequenceStart).allow true |>.dropKey
  return (l.goto l.cursor.step).push .blockEntry

def explicitKey (l : Lexer) : Except Stop Lexer := do
  let l ← l.openBlock .blockMappingStart
  let l ← (l.allow !l.inFlow).dropKey
  return (l.goto l.cursor.step).push .key

/-- The colon behind a simple key, or behind nothing. -/
def value (l : Lexer) : Except Stop Lexer := do
  match l.keys.lookup l.flow with
  | some k =>
    let l := { l with keys := l.keys.filter fun e => e.1 ≠ l.flow }
    let l := l.insert k.position .key
    let l := if l.inFlow then l else match l.indentTo k.column with
      | (l, true) => l.insert k.position .blockMappingStart
      | (l, false) => l
    return ((l.allow false).goto l.cursor.step).push .value
  | none =>
    let l ← l.openBlock .blockMappingStart
    let l ← (l.allow !l.inFlow).dropKey
    return (l.goto l.cursor.step).push .value

/-- A token that may start a simple key. -/
def word (l : Lexer) (read : Cursor → Except Stop (Token × Cursor)) : Except Stop Lexer := do
  let l ← l.markKey
  let (t, c) ← read l.cursor
  return ((l.allow false).goto c).push t

def plain (l : Lexer) : Except Stop Lexer := do
  let l ← l.markKey
  let (s, c, broken) :=
    plainWords l.inFlow (l.indent + 1) l.bound l.cursor [] [] false
  return ((l.allow broken).goto c).push (.scalar (String.ofList (Text.ofChars s)) true)

def block (l : Lexer) : Except Stop Lexer := do
  let l ← (l.allow true).dropKey
  let (s, c) ← blockScalar l.bound l.indent l.cursor
  return (l.goto c).push (.scalar s false)

def startsPlain (inFlow : Bool) (ch next : Char) : Bool :=
  !(isBlankOrEnd ch || "-?:,[]\x7b\x7d#&*!|>'\"%@`".toList.contains ch) ||
    (!isBlankOrEnd next && (ch = '-' || (!inFlow && (ch = '?' || ch = ':'))))

/-- The token at the cursor, which stands on no blank and not at the end. -/
def token (l : Lexer) : Except Stop Lexer :=
  let c := l.cursor
  let next := c.peekAt 1
  let atStart : Bool := c.column = 0
  let mapped {α : Type} (f : α → Token) (r : Except Stop (α × Cursor)) : Except Stop (Token × Cursor) :=
    r.map fun (a, c) => (f a, c)
  if c.peek = '%' && atStart then do
    let l ← l.closeAll
    let (d, c) ← Yaml.directive l.cursor
    return (l.goto c).push (.directive d)
  else if atStart && c.atMarker then
    l.marker (if c.peek = '-' then .documentStart else .documentEnd)
  else match c.peek with
    | '[' => l.flowStart .flowSequenceStart
    | '\x7b' => l.flowStart .flowMappingStart
    | ']' => l.flowEnd .flowSequenceEnd
    | '\x7d' => l.flowEnd .flowMappingEnd
    | ',' => l.flowEntry
    | '*' => l.word fun c => mapped .alias (anchorName c)
    | '&' => l.word fun c => mapped .anchor (anchorName c)
    | '!' => l.word fun c => mapped .tag (tagText c)
    | '\'' | '"' => l.word fun c => mapped (.scalar · false) (quotedScalar l.bound c)
    | ch =>
      if ch = '-' && isBlankOrEnd next then l.blockEntry
      else if ch = '?' && (l.inFlow || isBlankOrEnd next) then l.explicitKey
      else if ch = ':' && (l.inFlow || isBlankOrEnd next) then l.value
      else if (ch = '|' || ch = '>') && !l.inFlow then l.block
      else if startsPlain l.inFlow ch next then l.plain
      else .error .malformed

/-- The next token, or the end of the text. -/
def fetch (l : Lexer) : Except Stop (Lexer × Bool) := do
  let l ← (skipToToken l.bound l).dropStale
  let l := l.unwind l.cursor.column
  if l.cursor.rest.isEmpty then
    return ((← l.closeAll).push .streamEnd, true)
  else return (← l.token, false)

/-- The tokens that are settled when the text breaks off: those before the first place where a key may still
be inserted. -/
def settled (l : Lexer) : List Token :=
  let kept := l.keys.filter fun e => !l.isStale e.2
  (l.tokens.reverse).take ((kept.map fun e => e.2.position).foldl min l.count)

/-- All tokens; or those that come before something that is no token, and what is wrong there. -/
def run (l : Lexer) : Nat → List Token × Option Stop
  | 0 => (l.settled, some .malformed)
  | fuel + 1 =>
    match l.fetch with
    | .error stop => (l.settled, some stop)
    | .ok (l, true) => (l.tokens.reverse, none)
    | .ok (l, false) => run l fuel

end Lexer

/-- A byte order mark at the very start is no part of the text. -/
def Lexer.ofText (s : List Char) : Lexer :=
  match s with
  | '\uFEFF' :: _ => (Lexer.start s).goto (Cursor.start s).step
  | _ => Lexer.start s

/-- The tokens of characters, up to the place where the text breaks off if it does. -/
def tokensOf (s : List Char) : List Token × Option Stop :=
  if s.all isAllowed then
    let l := Lexer.ofText s
    l.run l.bound
  else ([], some .malformed)

/-- The tokens of a text. One that holds half of a surrogate pair has none. -/
def tokenize (s : List Char) : List Token × Option Stop :=
  match Text.chars? s with
  | some cs => tokensOf cs
  | none => ([], some .malformed)

end InstallWatch.Yaml
