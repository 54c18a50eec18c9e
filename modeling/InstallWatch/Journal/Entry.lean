import InstallWatch.Text.Lower
import InstallWatch.Text.Quoted
import InstallWatch.Text.Trim

/-!
Entries of the journal and their levels. A level is a number; four of them have words that a user may ask
for, and some more have names by which entries are marked.
-/

namespace InstallWatch.Journal

abbrev Level := Int

namespace Level

def debug : Level := 10
def info : Level := 20
def warning : Level := 30
def error : Level := 40
def critical : Level := 50

/-- The mark of an entry. -/
def name (level : Level) : String :=
  if level = debug then "DEBUG"
  else if level = info then "INFO"
  else if level = warning then "WARNING"
  else if level = error then "ERROR"
  else if level = critical then "CRITICAL"
  else if level = 0 then "NOTSET"
  else "Level " ++ toString level

/-- The words a user may ask for. -/
def ofWord? (word : String) : Option Level :=
  if word = "debug" then some debug
  else if word = "info" then some info
  else if word = "warn" ∨ word = "warning" then some warning
  else if word = "error" then some error
  else none

/-- The level a text asks for, blanks around it and its case ignored. -/
def parse? (s : String) : Option Level := ofWord? (Text.lowered (Text.trimmed Text.isBlank s))

/-- What to say of a text that asks for no level. -/
def refusal (s : String) : String :=
  "invalid log-level " ++ Text.quoted s ++ " (expected one of: debug, info, warn, error)"

end Level

structure Entry where
  level : Level
  message : String
deriving DecidableEq, Repr

/-- The mark of an entry's level, wide enough to stand in a column. -/
def Entry.mark (e : Entry) : String :=
  e.level.name ++ String.ofList (List.replicate (7 - e.level.name.length) ' ')

/-- An entry as a line. -/
def Entry.line (e : Entry) : String := e.mark ++ " | " ++ e.message

def debug (message : String) : Entry := ⟨Level.debug, message⟩
def info (message : String) : Entry := ⟨Level.info, message⟩
def warning (message : String) : Entry := ⟨Level.warning, message⟩
def error (message : String) : Entry := ⟨Level.error, message⟩

end InstallWatch.Journal
