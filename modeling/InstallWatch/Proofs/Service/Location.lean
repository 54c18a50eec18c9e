import Mathlib
import InstallWatch.Proofs.Address.Canonical
import InstallWatch.Proofs.Service.Connection
import InstallWatch.Proofs.Text.Pieces

/-!
The URLs of a location. However many slashes the base path and the path of a resource are given with, one stands at each
join; and a location's URL can be taken apart again. No slash stands in front of the base path, so the first one ends the
authority, and no colon stands in the port, so the last one ends the host, though a scope may hold colons and brackets.
-/

namespace InstallWatch

namespace Address
open InstallWatch.Text

theorem V6.InGroup.ne_slash {c : Char} (h : InGroup c) : c ≠ '/' := by
  rintro rfl
  revert h
  unfold InGroup
  decide

theorem V6.Writes.slash_not_mem {x : V6} {s : List Char} (h : x.Writes s) : '/' ∉ s := by
  have unscoped : ∀ {m}, Written x.groups m → '/' ∉ m := by
    intro m written slash
    rcases written.mem slash with group | colon
    · exact group.ne_slash rfl
    · exact absurd colon (by decide)
  rcases h with ⟨written, -⟩ | ⟨written, -⟩
  · exact unscoped written
  · rename_i m z
    simp [unscoped written, z.slash_not_mem]

/-- The text of an address with brackets around it if it is of the second family. -/
def bracketed : Address → String
  | .v4 x => String.ofList x.text
  | .v6 x => "[" ++ String.ofList x.text ++ "]"

end Address

namespace Service.Location
open InstallWatch.Text

/-! ## Numbers of ports -/

variable {T : Type} [Seconds T]

end Service.Location
end InstallWatch
