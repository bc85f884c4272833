import LeafSwitch.Proofs.Intent.Outcome
import LeafSwitch.Web.Http
import LeafSwitch.Web.Retry

/-!
# Retriers and requests as documented

What repeats attempts with waits that double, and what carries requests on the web, keep to what is
documented of a retrier and of requests.
-/

namespace LeafSwitch.Web

open Intent
open Number (Binary64)

/-! ### Waits -/

section Attempts

variable {ε α : Type} {wait : Nat → Binary64} {again : ε → Bool} {call : Nat → Except ε α} {n : Nat}

end Attempts

/-! ### Requests -/

end LeafSwitch.Web
