import InstallWatch.Files.Path
import InstallWatch.Numeral

/-!
Command lines: options for the whole program, a command, and the options of the command. An option takes its
value after an equals sign or from the next word, whatever that is; of several values the last one counts; and
two hyphens end the options.
-/

namespace InstallWatch

inductive Command where
  | status
  | events (infraEnv : Option String)
  | waitForApi (timeout : Nat)
  | version
deriving DecidableEq, Repr

namespace Command

/-- Words, sorted into options with their values and the rest. -/
structure Sorted where
  options : List (String × String)
  rest : List String

namespace Sorted

def addOption (name value : String) (s : Sorted) : Sorted := { s with options := (name, value) :: s.options }

def addWord (word : String) (s : Sorted) : Sorted := { s with rest := word :: s.rest }

/-- The last value of an option. -/
def value? (s : Sorted) (name : String) : Option String := s.options.reverse.lookup name

end Sorted

def isOption (word : String) : Bool := word.toList.head? = some '-' && 1 < word.length

/-- An option's name, and the value behind an equals sign. -/
def splitOption (word : String) : String × Option String :=
  let cs := word.toList
  let name := cs.takeWhile (· ≠ '=')
  (String.ofList name,
    if name.length < cs.length then some (String.ofList (cs.drop (name.length + 1))) else none)

/-- Sorts words by the options that are known. Options stand before all other words, unless they are `mixed`
with them. -/
def sortWords (known : List String) (mixed : Bool) : List String → Option Sorted
  | [] => some ⟨[], []⟩
  | word :: words =>
    if word = "--" then some ⟨[], words⟩
    else if isOption word then
      let (name, value?) := splitOption word
      if known.contains name then
        match value?, words with
        | some value, words => (sortWords known mixed words).map (.addOption name value)
        | none, value :: words => (sortWords known mixed words).map (.addOption name value)
        | none, [] => none
      else none
    else if mixed then (sortWords known mixed words).map (.addWord word)
    else some ⟨[], word :: words⟩

/-- The options of a command that takes no other words. -/
def optionsOnly (known : List String) (words : List String) : Option Sorted :=
  (sortWords known true words).filter (·.rest.isEmpty)

/-- Seconds to wait unless the line says otherwise. -/
def standardTimeout : Nat := 1200

/-- A number of seconds, at least one. -/
def timeout? (text : String) : Option Nat :=
  match Numeral.read? 10 text.toList with
  | some n => if 1 ≤ n then some n.toNat else none
  | none => none

/-- What to wait for, from the words behind the command. -/
def goal? (words : List String) : Option Command :=
  match sortWords [] false words with
  | some ⟨_, "rest-api" :: words⟩ => do
    let s ← optionsOnly ["--timeout"] words
    match s.value? "--timeout" with
    | none => return .waitForApi standardTimeout
    | some text => return .waitForApi (← timeout? text)
  | _ => none

/-- The names of the commands. -/
def names : List String := ["status", "events", "wait-for", "version"]

/-- The command of a name, with the words behind it. -/
def ofWords? (name : String) (words : List String) : Option Command :=
  if name = "status" then (optionsOnly [] words).map fun _ => .status
  else if name = "events" then
    (optionsOnly ["--infra-env-id"] words).map fun s => .events (s.value? "--infra-env-id")
  else if name = "wait-for" then goal? words
  else if name = "version" then (optionsOnly [] words).map fun _ => .version
  else none

/-- A line whose options and command's name are in order. -/
structure Line where
  folder : Files.Path
  level : String
  /-- The command, unless the words behind its name are not in order. -/
  command : Option Command

def Line.read? (words : List String) : Option Line :=
  match sortWords ["--dir", "--log-level"] false words with
  | some ⟨options, name :: words⟩ =>
    let s : Sorted := ⟨options, []⟩
    if names.contains name then
      some ⟨.parse ((s.value? "--dir").getD "."), (s.value? "--log-level").getD "info", ofWords? name words⟩
    else none
  | _ => none

end InstallWatch.Command
