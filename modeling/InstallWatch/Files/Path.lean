import InstallWatch.Text.Trim

/-!
Paths of files as texts name them: components between slashes, where empty ones and single points say nothing. A
path starts where one works, or at the root, which has a second name of two slashes.
-/

namespace InstallWatch.Files

/-- Where a path starts. -/
inductive Start where
  | here
  | root
  | doubleRoot
deriving DecidableEq, Repr

structure Path where
  start : Start
  parts : List String
deriving DecidableEq, Repr

namespace Path

/-- Three slashes and more are one. -/
def startOf (s : List Char) : Start :=
  match (s.takeWhile (· = '/')).length with
  | 0 => .here
  | 2 => .doubleRoot
  | _ => .root

def parse (s : String) : Path where
  start := startOf s.toList
  parts := ((Text.splitAt '/' s.toList).filter fun p => p ≠ [] && p ≠ ['.']).map String.ofList

def startText : Start → String
  | .here => ""
  | .root => "/"
  | .doubleRoot => "//"

def text (p : Path) : String :=
  if p.start = .here && p.parts.isEmpty then "." else startText p.start ++ "/".intercalate p.parts

/-- A path below a folder, unless it starts at the root. -/
def below (folder p : Path) : Path :=
  if p.start = .here then ⟨folder.start, folder.parts ++ p.parts⟩ else p

/-- The path of a file or folder inside a folder. -/
def child (folder : Path) (name : String) : Path := folder.below (parse name)

/-- The last component. -/
def name (p : Path) : String := p.parts.getLastD ""

/-- The components from the root on, steps back taken. -/
def resolved (p : Path) : List String :=
  p.parts.foldl (fun acc s => if s = ".." then acc.dropLast else acc ++ [s]) []

end InstallWatch.Files.Path
