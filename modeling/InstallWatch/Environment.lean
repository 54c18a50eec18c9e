/-!
The variables a process is started with.
-/

namespace InstallWatch

structure Environment where
  vars : List (String × String)

namespace Environment

def empty : Environment := ⟨[]⟩

def get? (env : Environment) (name : String) : Option String := env.vars.lookup name

/-- A variable's value, unless it is empty. -/
def given? (env : Environment) (name : String) : Option String := (env.get? name).filter (· ≠ "")

end InstallWatch.Environment
