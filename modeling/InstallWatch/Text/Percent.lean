import InstallWatch.Text.Ranges
import InstallWatch.Text.Utf8

/-!
Characters written by the bytes of their UTF-8 form, each as a percent sign and two hexadecimal digits.
-/

namespace InstallWatch.Text.Percent

/-- Characters that mean the same written out or escaped. -/
def isUnreserved (c : Char) : Bool := c.isAlphanum || c = '-' || c = '.' || c = '_' || c = '~'

def byteText (b : UInt8) : List Char := '%' :: (hexDigits 2 b.toNat).map Char.toUpper

/-- Escapes the characters that are not to be kept. -/
def escape (keep : Char → Bool) (s : List Char) : List Char :=
  (points s).flatMap fun p => match p with
    | .char c => if keep c then [c] else (pointBytes p).flatMap byteText
    | .half _ => (pointBytes p).flatMap byteText

/-- A text as the value of a form's field: a blank is written as a plus sign. -/
def formValue (s : String) : String :=
  String.ofList ((escape (fun c => isUnreserved c || c = ' ') s.toList).map fun c => if c = ' ' then '+' else c)

/-- The digits of all escapes in upper case; and whether every percent sign begins an escape. -/
def upperEscapes : List Char → List Char × Bool
  | [] => ([], true)
  | '%' :: a :: b :: s =>
    if (hexValue? a).isSome && (hexValue? b).isSome then
      let (t, whole) := upperEscapes s
      ('%' :: a.toUpper :: b.toUpper :: t, whole)
    else
      let (t, _) := upperEscapes (a :: b :: s)
      ('%' :: t, false)
  | c :: s =>
    let (t, whole) := upperEscapes s
    (c :: t, whole && c ≠ '%')

/-- Escapes a text that may hold escapes already. If each of its percent signs begins one, they stay. -/
def escapeRest (keep : Char → Bool) (s : List Char) : List Char :=
  let (t, whole) := upperEscapes s
  escape (fun c => keep c || (whole && c = '%')) t

/-- Writes out the escapes of unreserved characters. Nothing comes of a text with a percent sign before two
letters or digits that are not hexadecimal. -/
def unescapeUnreserved : List Char → Option (List Char)
  | [] => some []
  | '%' :: a :: b :: s =>
    if a.isAlphanum && b.isAlphanum then
      match hexValue? a, hexValue? b with
      | some x, some y =>
        let c := Char.ofNat (16 * x + y)
        if isUnreserved c then (unescapeUnreserved s).map (c :: ·)
        else (unescapeUnreserved s).map fun t => '%' :: a :: b :: t
      | _, _ => none
    else (unescapeUnreserved (a :: b :: s)).map ('%' :: ·)
  | c :: s => (unescapeUnreserved s).map (c :: ·)

end InstallWatch.Text.Percent
