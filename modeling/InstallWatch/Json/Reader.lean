import InstallWatch.Json.Value
import InstallWatch.Json.Complaint
import InstallWatch.Numeral
import InstallWatch.Text.Encoding

/-!
Reading JSON texts, with the words `NaN`, `Infinity` and `-Infinity` as numbers. Every step works on a
`Cursor`, which is what is left of the text and how much is gone, so that a complaint can say where.
-/

namespace InstallWatch.Json

structure Cursor where
  offset : Nat
  rest : List Char

/-- What went wrong, at which offset; or a numeral of too many digits; or too many values inside each other. -/
inductive Stop where
  | complaint (c : Complaint) (offset : Nat)
  | tooLong (digits : Nat)
  | tooDeep

namespace Cursor

def advance (c : Cursor) (n : Nat) : Cursor := ⟨c.offset + n, c.rest.drop n⟩

def stop {α : Type} (c : Cursor) (what : Complaint) : Except Stop α :=
  .error (.complaint what c.offset)

def isBlank (c : Char) : Bool := c = ' ' || c = '\t' || c = '\n' || c = '\r'

def skipBlanks (c : Cursor) : Cursor := c.advance (c.rest.takeWhile isBlank).length

end Cursor

/-- Four hexadecimal digits as a number. -/
def hex4? (s : List Char) : Option Nat :=
  if (s.take 4).length < 4 then none
  else ((s.take 4).mapM Text.hexValue?).map fun ds => ds.foldl (fun n d => 16 * n + d) 0

def isHighSurrogate (n : Nat) : Bool := 0xD800 ≤ n && n < 0xDC00

def isLowSurrogate (n : Nat) : Bool := 0xDC00 ≤ n && n < 0xE000

/-- The character with a number of four hexadecimal digits, or the half of a surrogate pair. -/
def escaped (n : Nat) : List Char := ((Text.Point.ofNat? n).map Text.ofPoint).getD []

/-- The character behind `\u` as it is written, and the length of its spelling from there on. At least one
character has to follow the digits. A half of a surrogate pair stands alone unless the other half follows. -/
def unicodeEscape (c : Cursor) : Except Stop (List Char × Nat) :=
  if (c.rest.take 5).length < 5 then .error (.complaint .unicodeEscape (c.offset - 1))
  else match hex4? c.rest with
    | none => .error (.complaint .unicodeEscape (c.offset - 1))
    | some high =>
      match isHighSurrogate high, c.rest.drop 4 with
      | true, '\\' :: 'u' :: s =>
        if (s.take 5).length < 5 then .ok (escaped high, 4)
        else match hex4? s with
          | none => .error (.complaint .unicodeEscape (c.offset + 5))
          | some low =>
            if isLowSurrogate low then
              .ok (escaped (0x10000 + (high - 0xD800) * 0x400 + (low - 0xDC00)), 10)
            else .ok (escaped high, 4)
      | _, _ => .ok (escaped high, 4)

def simpleEscape? : Char → Option Char
  | '"' => some '"'
  | '\\' => some '\\'
  | '/' => some '/'
  | 'b' => some '\x08'
  | 'f' => some '\x0c'
  | 'n' => some '\n'
  | 'r' => some '\r'
  | 't' => some '\t'
  | _ => none

/-- The text behind an opening quote that stands at the offset `start`. The characters read so far come in
reverse. -/
def readText (start : Nat) : Nat → Cursor → List Char → Except Stop (String × Cursor)
  | 0, _, _ => .error (.complaint .openText start)
  | fuel + 1, c, done =>
    match c.rest with
    | [] => .error (.complaint .openText start)
    | '"' :: _ => .ok (String.ofList done.reverse, c.advance 1)
    | '\\' :: s =>
      match s with
      | [] => .error (.complaint .openText start)
      | 'u' :: _ => do
        let (chars, n) ← unicodeEscape (c.advance 2)
        readText start fuel (c.advance (2 + n)) (chars.reverse ++ done)
      | e :: _ =>
        match simpleEscape? e with
        | some ch => readText start fuel (c.advance 2) (ch :: done)
        | none => c.stop .escape
    | ch :: _ =>
      if ch.toNat < 0x20 then c.stop .controlCharacter
      else readText start fuel (c.advance 1) ((Text.genuine ch).reverse ++ done)

/-- Words that are values. -/
def words : List (List Char × Json) :=
  [("null".toList, .null), ("true".toList, .bool true), ("false".toList, .bool false),
   ("NaN".toList, .float (0.0 / 0.0)), ("Infinity".toList, .float (1.0 / 0.0)),
   ("-Infinity".toList, .float (-1.0 / 0.0))]

/-- A number: a fraction needs digits on both sides of the point, and a leading zero stands alone. -/
def readNumber (c : Cursor) : Except Stop (Json × Cursor) :=
  let (negative, s) := match c.rest with
    | '-' :: s => (true, s)
    | s => (false, s)
  let whole := match s with
    | '0' :: _ => ['0']
    | _ => s.takeWhile Decimal.isDigit
  if whole.isEmpty then c.stop .value
  else
    let afterWhole := s.drop whole.length
    let fraction := match afterWhole with
      | '.' :: t => t.takeWhile Decimal.isDigit
      | _ => []
    let afterFraction := if fraction.isEmpty then afterWhole else afterWhole.drop (fraction.length + 1)
    let (exponent, n) := Decimal.exponentPart afterFraction
    let used := (if negative then 1 else 0) + whole.length +
      (if fraction.isEmpty then 0 else fraction.length + 1) + n
    if fraction.isEmpty && n = 0 then
      if Numeral.maxDecimalDigits < whole.length then .error (.tooLong whole.length)
      else
        let n : Int := Decimal.digitsValue whole
        .ok (.int (if negative then -n else n), c.advance used)
    else
      let x := Decimal.nearest (Decimal.digitsValue (whole ++ fraction)) (exponent - fraction.length)
      .ok (.float (Decimal.signed negative x), c.advance used)

mutual

/-- The value at the cursor, which stands on no blank, with room for so many lists and objects inside each
other. -/
def readValue : Nat → (room : Nat) → Cursor → Except Stop (Json × Cursor)
  | 0, _, c => c.stop .value
  | fuel + 1, room, c =>
    match c.rest with
    | '"' :: _ => do
      let (s, c') ← readText c.offset fuel (c.advance 1) []
      return (.text s, c')
    | '[' :: _ =>
      let c' := (c.advance 1).skipBlanks
      match room, c'.rest with
      | 0, _ => .error .tooDeep
      | _, ']' :: _ => .ok (.list [], c'.advance 1)
      | room + 1, _ => readItems fuel room c' []
    | '\x7b' :: _ =>
      let c' := (c.advance 1).skipBlanks
      match room, c'.rest with
      | 0, _ => .error .tooDeep
      | _, '\x7d' :: _ => .ok (.object [], c'.advance 1)
      | room + 1, _ => readMembers fuel room c' []
    | s =>
      match words.find? fun w => w.1.isPrefixOf s with
      | some (word, v) => .ok (v, c.advance word.length)
      | none => readNumber c

/-- The items from the cursor on, the ones before in reverse. -/
def readItems : Nat → (room : Nat) → Cursor → List Json → Except Stop (Json × Cursor)
  | 0, _, c, _ => c.stop .value
  | fuel + 1, room, c, done => do
    let (v, c) ← readValue fuel room c
    let c := c.skipBlanks
    match c.rest with
    | ']' :: _ => return (.list (v :: done).reverse, c.advance 1)
    | ',' :: _ => readItems fuel room (c.advance 1).skipBlanks (v :: done)
    | _ => c.stop .comma

/-- The members from the cursor on, added to the ones before. -/
def readMembers : Nat → (room : Nat) → Cursor → List (String × Json) → Except Stop (Json × Cursor)
  | 0, _, c, _ => c.stop .value
  | fuel + 1, room, c, done =>
    match c.rest with
    | '"' :: _ => do
      let (name, c) ← readText c.offset fuel (c.advance 1) []
      let c := c.skipBlanks
      match c.rest with
      | ':' :: _ => do
        let (v, c) ← readValue fuel room (c.advance 1).skipBlanks
        let c := c.skipBlanks
        match c.rest with
        | '\x7d' :: _ => return (.object (put name v done), c.advance 1)
        | ',' :: _ => readMembers fuel room (c.advance 1).skipBlanks (put name v done)
        | _ => c.stop .comma
      | _ => c.stop .colon
    | _ => c.stop .memberName

end

/-- One value with nothing but blanks around it, with room for so many lists and objects inside each other. -/
def readAll (room : Nat) (s : List Char) : Except Stop Json :=
  if s.head? = some '\uFEFF' then .error (.complaint .byteOrderMark 0)
  else do
    let (v, c) ← readValue (2 * s.length + 2) room (Cursor.skipBlanks ⟨0, s⟩)
    let c := c.skipBlanks
    if c.rest.isEmpty then return v else c.stop .trailing

/-- The value that characters, all of them genuine, spell. How much room there is, the reader's own caller leaves. -/
def parse (room : Nat) (s : List Char) : Except Fault Json :=
  match readAll room s with
  | .ok v => .ok v
  | .error (.complaint what offset) => .error (Fault.locate s what offset)
  | .error (.tooLong digits) => .error (.tooLong digits)
  | .error .tooDeep => .error .tooDeep

/-- The characters of a body. One that is long enough tells its encoding by its start; a shorter one, or one that
does not keep to what it tells, is UTF-8, and bytes that are not stand for the characters of the same number. A
byte order mark that is all there is says nothing. -/
def bodyChars (bytes : Text.Bytes) : List Char :=
  let guessed := if bytes.length < 4 then none else Text.Encoding.decodeGuessed? bytes
  if bytes = [0xEF, 0xBB, 0xBF] then []
  else (guessed.or (Text.decodeUtf8 bytes)).getD (bytes.map fun b => Char.ofNat b.toNat)

/-- The value in the bytes of a body. -/
def ofBytes (room : Nat) (bytes : Text.Bytes) : Except Fault Json := parse room (bodyChars bytes)

end InstallWatch.Json
