import InstallWatch.Numeral

/-!
Identifiers of 128 bits. Many spellings are read, one is written: thirty-two lower-case hexadecimal digits
in groups of 8, 4, 4, 4 and 12.
-/

namespace InstallWatch

structure Uuid where
  value : Fin (Nat.pow 2 128)
deriving DecidableEq

namespace Uuid
open InstallWatch.Text

/-- Removes every occurrence of a word, from left to right. -/
def removeAll (word : List Char) : List Char → List Char
  | [] => []
  | c :: s =>
    if _h : word ≠ [] ∧ word.isPrefixOf (c :: s) then removeAll word ((c :: s).drop word.length)
    else c :: removeAll word s
termination_by s => s.length
decreasing_by
  · have : word.length ≠ 0 := by simpa using _h.1
    simp only [List.length_drop, List.length_cons]
    omega
  · simp

/-- What is left of a spelling once marks, braces and hyphens are gone. -/
def core (s : List Char) : List Char :=
  let bare := removeAll "uuid:".toList (removeAll "urn:".toList s)
  (trim (fun c => c = '{' || c = '}') bare).filter (· ≠ '-')

def parse? (s : String) : Option Uuid :=
  let digits := core s.toList
  if digits.length ≠ 32 then none
  else match Numeral.read? 16 digits with
    | some (.ofNat n) => if h : n < Nat.pow 2 128 then some ⟨n, h⟩ else none
    | _ => none

/-- The digits in groups of 8, 4, 4, 4 and 12 with hyphens between them. -/
def hyphenate (ds : List Char) : List Char :=
  ds.take 8 ++ '-' :: (ds.drop 8).take 4 ++ '-' :: (ds.drop 12).take 4 ++ '-' ::
    (ds.drop 16).take 4 ++ '-' :: ds.drop 20

def text (u : Uuid) : String := String.ofList (hyphenate (hexDigits 32 u.value))

/-- The random identifier that the lowest 122 bits of a number make. -/
def random (n : Nat) : Uuid :=
  let low := n % Nat.pow 2 62
  let mid := n / Nat.pow 2 62 % Nat.pow 2 12
  let high := n / Nat.pow 2 74 % Nat.pow 2 48
  ⟨high * Nat.pow 2 80 + 4 * Nat.pow 2 76 + mid * Nat.pow 2 64 + 2 * Nat.pow 2 62 + low, by simp only [Nat.pow_eq, low, mid, high]; omega⟩

end InstallWatch.Uuid
