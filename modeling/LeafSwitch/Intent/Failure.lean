/-!
# Failures of an exchange

An exchange with a service fails by a status that is no success, or by something that is raised on
the way. Some failures pass by themselves: those of the transport and of the connection, those that
come of waiting too long, and the statuses of a service that is overloaded.
-/

namespace LeafSwitch.Intent

/-- The classes of what is raised that matter here. -/
inductive ErrorClass where
  /-- The transport fails. -/
  | transport
  /-- The connection fails. -/
  | connection
  /-- Something takes too long. -/
  | timeout
  deriving DecidableEq, Repr

/-- Something that is raised. -/
structure Raised where
  /-- The name of its own class. -/
  name : String
  /-- Its text. -/
  text : String
  /-- The classes that its own class is or descends from, as far as they matter. -/
  classes : List ErrorClass
  deriving DecidableEq, Repr

/-- Whether something that is raised belongs to a class. -/
def Raised.isA (e : Raised) (c : ErrorClass) : Bool :=
  e.classes.contains c

/-- How an exchange with a service fails. -/
inductive Failure where
  /-- The service answers with a status that is no success. -/
  | status (code : Int)
  /-- Something else is raised. -/
  | raised (cause : Raised)
  deriving DecidableEq, Repr

/-- The statuses of a service that is overloaded. -/
def passingStatuses : List Int := [429, 500, 502, 503, 504]

/-- The classes of failures that may pass. -/
def passingClasses : List ErrorClass := [.transport, .connection, .timeout]

namespace Failure

/-- The name of a failure. -/
def name : Failure → String
  | status _ => "HTTPStatusError"
  | raised cause => cause.name

/-- The wording of a failure. -/
def message : Failure → String
  | status code => "HTTP status " ++ toString code
  | raised cause => cause.text

/-- Whether a failure may pass by itself. -/
def mayPass : Failure → Bool
  | status code => passingStatuses.contains code
  | raised cause => passingClasses.any cause.isA

end Failure

end LeafSwitch.Intent
