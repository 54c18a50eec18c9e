import InstallWatch.Text.Surrogate

/-!
Text files: strict UTF-8, with every line end read as one line feed.
-/

namespace InstallWatch.Text

/-- A file's bytes. -/
abbrev Bytes := List UInt8

/-- The characters of well-formed UTF-8, nothing otherwise. -/
def decodeUtf8 (bytes : Bytes) : Option (List Char) :=
  (String.fromUTF8? (ByteArray.mk bytes.toArray)).map String.toList

/-- The text of well-formed UTF-8, nothing otherwise. -/
def textOfUtf8? (bytes : Bytes) : Option String :=
  (decodeUtf8 bytes).map fun s => String.ofList (ofChars s)

/-- The bytes of a point; a half is written as if it were a character. -/
def pointBytes : Point → Bytes
  | .char c => (String.singleton c).toUTF8.data.toList
  | .half h =>
    let code := 0xD800 + h.val
    [UInt8.ofNat (0xE0 + code / 0x1000), UInt8.ofNat (0x80 + code / 0x40 % 0x40), UInt8.ofNat (0x80 + code % 0x40)]

def encodeUtf8 (s : String) : Bytes := (points s.toList).flatMap pointBytes

/-- A carriage return, with the line feed that may follow it, is one line feed. -/
def normalizeLineEnds : List Char → List Char
  | [] => []
  | '\r' :: '\n' :: s => '\n' :: normalizeLineEnds s
  | '\r' :: s => '\n' :: normalizeLineEnds s
  | c :: s => c :: normalizeLineEnds s

end InstallWatch.Text
