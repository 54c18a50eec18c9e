import InstallWatch.Address.V4

/-!
IPv6 addresses: eight groups of four hexadecimal digits, with an optional scope. Reading takes every
spelling (either case, leading zeros, a run of zero groups left out, the last two groups dotted); writing has
one: lower case, no leading zeros, and the first of the longest runs of at least two zero groups left out.
-/

namespace InstallWatch.Address
open InstallWatch.Text

/-- A zone name after the percent sign. -/
structure Scope where
  name : List Char
  name_ne_nil : name ≠ []
  percent_not_mem : '%' ∉ name
  slash_not_mem : '/' ∉ name
deriving DecidableEq

structure V6 where
  groups : List Nat
  scope : Option Scope
  length_groups : groups.length = 8
  lt_of_mem : ∀ g ∈ groups, g < 65536
deriving DecidableEq

namespace V6

def group? (s : List Char) : Option Nat :=
  if s = [] ∨ 4 < s.length then none
  else (s.mapM hexValue?).map fun ds => ds.foldl (fun n d => 16 * n + d) 0

/-- The parts with a dotted last part made two groups, as texts. -/
def undot (parts : List (List Char)) : Option (List (List Char)) :=
  match parts.getLast? with
  | some last =>
    if last.contains '.' then do
      let (high, low) := V4.halves (← V4.parse? last)
      return parts.dropLast ++ [hexNumeral high, hexNumeral low]
    else some parts
  | none => some parts

/-- The indices of empty parts other than the first and the last. -/
def gaps (parts : List (List Char)) : List Nat :=
  (List.range parts.length).filter fun i =>
    0 < i && i + 1 < parts.length && (parts.getD i []).isEmpty

/-- Drops the lone empty part that a double colon leaves at an end of the text. Any other empty part
stays, and is no group. -/
def dropEdge (parts : List (List Char)) : List (List Char) := if parts = [[]] then [] else parts

/-- The eight groups of an address written without a scope. -/
def groups? (s : List Char) : Option (List Nat) := do
  let parts := splitAt ':' s
  if parts.length < 3 then none
  let parts ← undot parts
  match gaps parts with
  | [] => if parts.length = 8 then parts.mapM group? else none
  | [i] =>
    let front := dropEdge (parts.take i)
    let back := dropEdge (parts.drop (i + 1))
    if 7 < front.length + back.length then none
    else do
      let front ← front.mapM group?
      let back ← back.mapM group?
      return front ++ List.replicate (8 - (front.length + back.length)) 0 ++ back
  | _ => none

def scope? (name : List Char) : Option Scope :=
  if h : name ≠ [] ∧ '%' ∉ name ∧ '/' ∉ name then some ⟨name, h.1, h.2.1, h.2.2⟩ else none

def ofGroups? (groups : List Nat) (scope : Option Scope) : Option V6 :=
  if h : groups.length = 8 ∧ ∀ g ∈ groups, g < 65536 then some ⟨groups, scope, h.1, h.2⟩ else none

def parse? (s : List Char) : Option V6 := do
  let address := s.takeWhile (· ≠ '%')
  let scope ← match s.dropWhile (· ≠ '%') with
    | [] => some none
    | _ :: name => (scope? name).map some
  ofGroups? (← groups? address) scope

/-- The length of the run of zero groups that starts at an index. -/
def zerosAt (groups : List Nat) (i : Nat) : Nat := ((groups.drop i).takeWhile (· = 0)).length

/-- Where the first of the longest runs of zero groups starts, and its length. -/
def longestZeros (groups : List Nat) : Nat × Nat :=
  (List.range groups.length).foldl
    (fun best i => if best.2 < zerosAt groups i then (i, zerosAt groups i) else best) (0, 0)

def join (sep : List Char) (parts : List (List Char)) : List Char := sep.intercalate parts

def groupsText (groups : List Nat) : List Char :=
  let (start, count) := longestZeros groups
  let written := groups.map hexNumeral
  if 1 < count then
    join [':'] (written.take start) ++ [':', ':'] ++ join [':'] (written.drop (start + count))
  else join [':'] written

def text (x : V6) : List Char :=
  groupsText x.groups ++ (match x.scope with
    | none => []
    | some scope => '%' :: scope.name)

end InstallWatch.Address.V6
