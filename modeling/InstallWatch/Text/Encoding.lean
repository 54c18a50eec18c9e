import InstallWatch.Text.Utf8

/-!
The encodings of Unicode, told from each other by the first four bytes of a text that starts with two ASCII
characters: by its byte order mark, or by where its zeros are.
-/

namespace InstallWatch.Text

/-- An encoding; the wide ones by whether the greater byte comes first. -/
inductive Encoding where
  | utf8
  | utf16 (greaterFirst : Bool)
  | utf32 (greaterFirst : Bool)
deriving DecidableEq, Repr

namespace Encoding

/-- The number that bytes spell. -/
def number (greaterFirst : Bool) (bytes : Bytes) : Nat :=
  (if greaterFirst then bytes else bytes.reverse).foldl (fun n b => 0x100 * n + b.toNat) 0

/-- The units of two bytes each, if they come out even. -/
def pairs? (greaterFirst : Bool) : Bytes → Option (List Nat)
  | [] => some []
  | a :: b :: s => (pairs? greaterFirst s).map (number greaterFirst [a, b] :: ·)
  | _ => none

/-- The units of four bytes each, if they come out even. -/
def quads? (greaterFirst : Bool) : Bytes → Option (List Nat)
  | [] => some []
  | a :: b :: c :: d :: s => (quads? greaterFirst s).map (number greaterFirst [a, b, c, d] :: ·)
  | _ => none

/-- The character of a code point, if it is one. -/
def char? (n : Nat) : Option Char :=
  match Point.ofNat? n with
  | some (.char c) => some c
  | _ => none

/-- The characters of units of sixteen bits; halves of surrogate pairs have to be paired. -/
def ofUnits16? : List Nat → Option (List Char)
  | [] => some []
  | [u] => (char? u).map ([·])
  | u :: v :: s =>
    if 0xD800 ≤ u ∧ u < 0xDC00 ∧ 0xDC00 ≤ v ∧ v < 0xE000 then do
      let c ← char? (0x10000 + (u - 0xD800) * 0x400 + (v - 0xDC00))
      return c :: (← ofUnits16? s)
    else do
      let c ← char? u
      return c :: (← ofUnits16? (v :: s))

def decode? (e : Encoding) (bytes : Bytes) : Option (List Char) :=
  match e with
  | utf8 => decodeUtf8 bytes
  | utf16 greaterFirst => (pairs? greaterFirst bytes).bind ofUnits16?
  | utf32 greaterFirst => (quads? greaterFirst bytes).bind fun us => us.mapM char?

/-- The encoding of a text by its byte order mark, and how many bytes the mark takes. -/
def marked? (bytes : Bytes) : Option (Encoding × Nat) :=
  if [0xFF, 0xFE, 0x00, 0x00].isPrefixOf bytes then some (utf32 false, 4)
  else if [0x00, 0x00, 0xFE, 0xFF].isPrefixOf bytes then some (utf32 true, 4)
  else if [0xEF, 0xBB, 0xBF].isPrefixOf bytes then some (utf8, 3)
  else if [0xFF, 0xFE].isPrefixOf bytes then some (utf16 false, 2)
  else if [0xFE, 0xFF].isPrefixOf bytes then some (utf16 true, 2)
  else none

/-- The encoding of a text without a mark, by which of its first four bytes are zero. -/
def unmarked? (bytes : Bytes) : Option Encoding :=
  match (bytes.take 4).map (· == 0) with
  | [false, false, false, false] => some utf8
  | [true, false, true, false] => some (utf16 true)
  | [false, true, false, true] => some (utf16 false)
  | [true, true, true, false] => some (utf32 true)
  | [false, true, true, true] => some (utf32 false)
  | _ => none

/-- The characters of a text of at least four bytes in the encoding that its start tells. -/
def decodeGuessed? (bytes : Bytes) : Option (List Char) :=
  match marked? bytes with
  | some (e, n) => e.decode? (bytes.drop n)
  | none => (unmarked? bytes).bind fun e => e.decode? bytes

end Encoding

end InstallWatch.Text
