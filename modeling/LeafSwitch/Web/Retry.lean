import LeafSwitch.Data.Real
import LeafSwitch.Data.Shown
import LeafSwitch.Intent.Client

/-!
# Waits that double

Attempts are repeated until a number of them has been made, each time after a wait twice as long. A
number may be given by a value of another kind; where a value is no number, the first failure that
may pass ends in another one.
-/

namespace LeafSwitch.Web

open Intent
open Number (Binary64)

/-! ### How often -/

/-- A number of attempts that is never reached. -/
def endless : Int := Nat.pow 2 1024

/-- How many attempts a value allows, where attempts are counted until their number is not below it;
a value that is no number has a kind that nothing is counted against. -/
def attemptLimit : Value → Except String Int
  | .int n => .ok n
  | .bool b => .ok (if b then 1 else 0)
  | .float .nan => .ok endless
  | .float (.infinite negative) => .ok (if negative then 0 else endless)
  | .float x =>
    let whole := x.truncate?.getD 0
    .ok (if (Binary64.ofInt whole).lt x then whole + 1 else whole)
  | v => .error v.kind

/-- Try, beginning with the given attempt, and as often again as `left` allows. -/
def tryFrom {ε α : Type} (wait : Nat → Binary64) (again : ε → Bool) (call : Nat → Except ε α) :
    Nat → Nat → Attempts ε α
  | 0, attempt => ⟨call attempt, attempt, []⟩
  | left + 1, attempt =>
    match call attempt with
    | .ok a => ⟨.ok a, attempt, []⟩
    | .error e =>
      if again e then
        let rest := tryFrom wait again call left (attempt + 1)
        { rest with waits := (e, wait attempt) :: rest.waits }
      else ⟨.error e, attempt, []⟩

/-- How a failure that may pass ends where nothing tells whether to go on. -/
def uncountable (kind : String) : Failure :=
  .raised ⟨"TypeError", "'>=' not supported between instances of 'int' and '" ++ kind ++ "'", []⟩

/-! ### How long -/

/-- The greater of two numbers, and the first if they are equal. -/
def greater (x y : Binary64) : Binary64 :=
  if x.lt y then y else x

/-- The lesser of two numbers, and the first if they are equal. -/
def lesser (x y : Binary64) : Binary64 :=
  if y.lt x then y else x

/-- One second at first, and twice as long each time, within the bounds. -/
def wait (least greatest : Binary64) (attempt : Nat) : Binary64 :=
  greater (greater (.zero false) least) (lesser (.ofInt (Nat.pow 2 (attempt - 1))) greatest)

/-! ### Retriers -/

/-- What is told of a wait after a failure that is shown by a text. -/
def noteText (task failure : String) (wait : Binary64) : String :=
  "Retrying " ++ task ++ " in " ++ wait.text Value.floatStyle ++ " seconds as it raised " ++
    failure ++ "."

/-- What repeats attempts with waits that double, where `ofFailure` and `shown` tell how failures
are made and shown. -/
def retrier {ε α : Type} (ofFailure : Failure → ε) (shown : ε → String) : Retrier ε α where
  run limit wait again call attempt :=
    match attemptLimit limit with
    | .ok limit => tryFrom wait again call (limit - attempt).toNat attempt
    | .error kind =>
      match call attempt with
      | .ok a => ⟨.ok a, attempt, []⟩
      | .error e => ⟨.error (if again e then ofFailure (uncountable kind) else e), attempt, []⟩
  wait := wait
  note task failure wait := noteText task (shown failure) wait

/-- A failure with its name. -/
def shownFailure (cause : Failure) : String :=
  cause.name ++ ": " ++ cause.message

/-- What repeats the attempts of a client. -/
def clientRetrier : Retrier ClientError String :=
  retrier .failed fun
    | .failed cause => shownFailure cause
    | e => e.message

end LeafSwitch.Web
