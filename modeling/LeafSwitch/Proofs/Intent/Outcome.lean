import LeafSwitch.Intent.Client
import LeafSwitch.Proofs.Data.Steps
import LeafSwitch.Proofs.Intent.Retry

/-!
# What comes of one request

An outcome of a request either yields a text or is a failure, and failures are told apart by whether
they may pass. What carries requests is known by what is documented of it: which statuses are
successes. Which answers it refuses to take is left open.
-/

namespace LeafSwitch.Intent

/-- Whether an outcome is a failure that may pass. An answer that cannot be taken is judged by what
it raises, and any other answer by its status. -/
def Outcome.mayPass (http : Http) (r : Request) : Outcome → Bool
  | .lost cause => cause.mayPass
  | .answered status body =>
    match http.refusal? r status body with
    | some cause => (Failure.raised cause).mayPass
    | none => passingStatuses.contains status

variable {http : Http} {nesting : Nesting} {r : Request}

end LeafSwitch.Intent
