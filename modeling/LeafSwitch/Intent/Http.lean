import LeafSwitch.Data.Value
import LeafSwitch.Intent.Failure

/-!
# Requests and answers

A request carries a key and a content to an address, and an answer to it has a status and a body.
How a request is made, which answers can be taken and which statuses are successes is not said here:
it is left to whatever carries requests.
-/

namespace LeafSwitch.Intent

/-- A request to the service. -/
structure Request where
  /-- Where it goes. -/
  url : String
  /-- The key it carries. -/
  key : String
  /-- Its content. -/
  body : Value
  deriving DecidableEq, Repr

/-- What comes of one request. -/
inductive Outcome where
  /-- No answer arrives. -/
  | lost (cause : Failure)
  /-- An answer arrives. -/
  | answered (status : Int) (body : String)
  deriving DecidableEq, Repr

/-- What carries requests. -/
structure Http where
  /-- The request to an address with a key and a content, which is given up after some seconds, or
  what is raised instead. -/
  compose (url : String) (key content timeout : Value) : Except Raised Request
  /-- What is raised by an answer that cannot be taken, if it cannot. -/
  refusal? (r : Request) (status : Int) (body : String) : Option Raised
  /-- Whether a status is a success. -/
  isSuccess (status : Int) : Bool

end LeafSwitch.Intent
