import InstallWatch.Text.Utf8

/-!
Base64 as it is read from files: characters outside the alphabet are passed over, and padding that completes
a group ends the text.
-/

namespace InstallWatch.Text

/-- The six bits of a character of the alphabet. -/
def sextet? (c : Char) : Option Nat :=
  if 'A' ≤ c ∧ c ≤ 'Z' then some (c.toNat - 'A'.toNat)
  else if 'a' ≤ c ∧ c ≤ 'z' then some (c.toNat - 'a'.toNat + 26)
  else if '0' ≤ c ∧ c ≤ '9' then some (c.toNat - '0'.toNat + 52)
  else if c = '+' then some 62
  else if c = '/' then some 63
  else none

/-- Reads on inside a group of four: how many characters of it are done, the bits left over from the last one,
and the padding just seen. -/
def base64From (position left pads : Nat) : List Char → Option Bytes
  | [] => if position = 0 then some [] else none
  | c :: s =>
    if c = '=' then
      if 2 ≤ position then
        if 4 ≤ position + (pads + 1) then some [] else base64From position left (pads + 1) s
      else base64From position left pads s
    else match sextet? c with
      | none => base64From position left pads s
      | some v =>
        match position with
        | 0 => base64From 1 v 0 s
        | 1 => (base64From 2 (v % 16) 0 s).map (UInt8.ofNat (left * 4 + v / 16) :: ·)
        | 2 => (base64From 3 (v % 4) 0 s).map (UInt8.ofNat (left * 16 + v / 4) :: ·)
        | _ => (base64From 0 0 0 s).map (UInt8.ofNat (left * 64 + v) :: ·)

def decodeBase64 (s : List Char) : Option Bytes := base64From 0 0 0 s

end InstallWatch.Text
