import LeafSwitch.Data.Value

/-!
# Repeated attempts

What fails for a passing reason is tried again after a wait. How attempts are repeated is not said
here: it is left to a retrier, which is put together with a limit, the bounds of the waits and a
test for the failures that may pass.
-/

namespace LeafSwitch.Intent

open Number (Binary64)

/-- What came of a number of attempts. -/
structure Attempts (ε α : Type) where
  /-- The outcome of the last attempt. -/
  outcome : Except ε α
  /-- The attempts made. -/
  calls : Nat
  /-- The failures before, each with the wait that followed. -/
  waits : List (ε × Binary64)

/-- What repeats attempts. Attempts are numbered from 1. -/
structure Retrier (ε α : Type) where
  /-- Make attempts from the one with a number on, where a value limits them: after a failure that
  passes the test there is a wait, and the next attempt. -/
  run (limit : Value) (wait : Nat → Binary64) (again : ε → Bool) (call : Nat → Except ε α)
    (attempt : Nat) : Attempts ε α
  /-- The seconds to wait after an attempt, between a least and a greatest number of them. -/
  wait (least greatest : Binary64) (attempt : Nat) : Binary64
  /-- What is told of a wait for another attempt at something, after a failure. -/
  note (task : String) (failure : ε) (wait : Binary64) : String

/-- Make attempts at a call up to a limit, with growing waits in between. -/
def Retrier.attempts {ε α : Type} (t : Retrier ε α) (limit : Value) (least greatest : Binary64)
    (again : ε → Bool) (call : Nat → Except ε α) : Attempts ε α :=
  t.run limit (t.wait least greatest) again call 1

end LeafSwitch.Intent
