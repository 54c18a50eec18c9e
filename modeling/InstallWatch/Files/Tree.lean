import InstallWatch.Files.Path
import InstallWatch.Text.Utf8

/-!
The files and folders a program sees, and the folder it works in. A folder is there if something is below it. A path
is followed step by step, and every step, also one back, is taken from a folder that is there and may be gone into.
-/

namespace InstallWatch.Files

inductive Item where
  | file (bytes : Text.Bytes)
  /-- A file that cannot be read, and what the system says of the attempt. -/
  | unreadable (complaint : String)
  | folder
  /-- A folder that nobody may go into. -/
  | locked
deriving DecidableEq

/-- Why it cannot be told what is at a path. -/
inductive Fault where
  /-- A name on the way, or the path as a whole, is longer than any may be. -/
  | tooLong
  /-- There is a folder on the way that nobody may go into. -/
  | forbidden
deriving DecidableEq, Repr

def Fault.message : Fault → String
  | tooLong => "File name too long"
  | forbidden => "Permission denied"

/-- What reading a file comes to: its bytes, or what the system says. -/
abbrev Contents := Except String Text.Bytes

/-- How many bytes a name may have. -/
def maxNameSize : Nat := 255

/-- How many bytes a path may have. -/
def maxPathSize : Nat := 4095

def sizeOf (name : String) : Nat := (Text.encodeUtf8 name).length

structure Tree where
  /-- The folder that relative paths start from. -/
  here : Path
  items : List (List String × Item)

namespace Tree

def empty (here : Path) : Tree := ⟨here, [(here.resolved, .folder)]⟩

/-- Whether there is a folder at a place that nobody may go into. -/
def isLockedAt (t : Tree) (place : List String) : Bool := t.items.lookup place = some .locked

/-- Whether there is a folder at a place. -/
def isFolderAt (t : Tree) (place : List String) : Bool :=
  place.isEmpty || t.items.lookup place = some .folder || t.isLockedAt place ||
    t.items.any fun e => place.isPrefixOf e.1 && place.length < e.1.length

/-- Where steps lead from a place; nowhere if there is no folder to take one from. -/
def walk (t : Tree) : List String → (place : List String) → Except Fault (Option (List String))
  | [], place => .ok (some place)
  | name :: names, place =>
    if !t.isFolderAt place then .ok none
    else if t.isLockedAt place then .error .forbidden
    else if name = ".." then walk t names place.dropLast
    else if maxNameSize < sizeOf name then .error .tooLong
    else walk t names (place ++ [name])

/-- The place that the steps of a path are taken from. -/
def origin (t : Tree) (p : Path) : List String := if p.start = .here then t.here.resolved else []

/-- Where a path leads. No name holds the character zero. -/
def locate (t : Tree) (p : Path) : Except Fault (Option (List String)) :=
  if p.parts.any fun name => name.toList.contains '\x00' then .ok none
  else if maxPathSize < sizeOf p.text then .error .tooLong
  else t.walk p.parts (t.origin p)

/-- The file at a path, if there is one. -/
def file? (t : Tree) (p : Path) : Except Fault (Option Contents) :=
  (t.locate p).map fun place => match place.bind fun q => t.items.lookup q with
    | some (.file bytes) => some (.ok bytes)
    | some (.unreadable complaint) => some (.error complaint)
    | _ => none

def isFolder (t : Tree) (p : Path) : Except Fault Bool :=
  (t.locate p).map fun place => place.any t.isFolderAt

/-- The place of a path in a tree where every step back leads where it seems to. -/
def place (t : Tree) (p : Path) : List String := (t.here.below p).resolved

/-- Takes away what is at a place; the folder it was in stays. -/
def remove (t : Tree) (p : Path) : Tree :=
  let place := t.place p
  { t with
    items := (t.items.filter fun e => !place.isPrefixOf e.1) ++
      (if place.isEmpty then [] else [(place.dropLast, Item.folder)]) }

def put (t : Tree) (p : Path) (i : Item) : Tree :=
  let rest := t.remove p
  { rest with items := (t.place p, i) :: rest.items }

end InstallWatch.Files.Tree
