import LeafSwitch.Data.Shown
import LeafSwitch.Intent.Http
import LeafSwitch.Web.Address

/-!
# Requests on the web

Requests go to addresses of the web. A request needs a key of ASCII text and a host that can be
named. Where the address has come down to a path alone, an answer cannot be taken: nothing tells
what kind of service it is from.
-/

namespace LeafSwitch.Web

open Intent (ErrorClass Raised Request Http)

/-! ### What is raised -/

/-- The classes of the transport. -/
def transportClasses : List String :=
  ["TransportError", "ConnectError", "ReadError", "WriteError", "CloseError", "NetworkError",
    "ConnectTimeout", "ReadTimeout", "WriteTimeout", "PoolTimeout", "TimeoutException",
    "ProxyError", "UnsupportedProtocol", "ProtocolError", "LocalProtocolError",
    "RemoteProtocolError"]

/-- The classes of the connection. -/
def connectionClasses : List String :=
  ["ConnectionError", "ConnectionRefusedError", "ConnectionResetError", "ConnectionAbortedError",
    "BrokenPipeError"]

/-- Something that is raised, known by the name of its class. -/
def raised (name text : String) : Raised :=
  let classes : List (ErrorClass × Bool) :=
    [(.transport, transportClasses.contains name), (.connection, connectionClasses.contains name),
      (.timeout, name == "TimeoutError")]
  ⟨name, text, (classes.filter (·.2)).map (·.1)⟩

/-! ### What a request is made of -/

/-- Why a value is no key that a request can carry. -/
inductive KeyError where
  /-- The value is no text. -/
  | kind (kind : String)
  /-- The text is not in ASCII. -/
  | beyondAscii (run : Text.BeyondAscii)
  deriving DecidableEq, Repr

/-- What is raised for a failure. -/
def KeyError.raised : KeyError → Raised
  | .kind name =>
    Web.raised "TypeError" ("Header value must be str or bytes, not <class '" ++ name ++ "'>")
  | .beyondAscii run => Web.raised "UnicodeEncodeError" run.message

/-- The text of a key. -/
def keyText (v : Value) : Except KeyError String :=
  match v with
  | .str s =>
    match Text.beyondAscii? s with
    | some run => .error (.beyondAscii run)
    | none => .ok s
  | v => .error (.kind v.kind)

/-- What is raised for a host that cannot be named. -/
def NamingError.raised (e : NamingError) : Raised :=
  let kind := match e with
    | .name (.label (.noLetter ..)) => "InvalidCodepoint"
    | .name (.label (.misplaced ..)) => "InvalidCodepointContext"
    | .name (.label (.direction ..)) => "IDNABidiError"
    | .name _ => "IDNAError"
    | .beyondAscii _ => "UnicodeEncodeError"
  Web.raised kind e.message

/-- The request that a key and a content make to an address. -/
def compose (url : String) (key content : Value) : Except Raised Request := do
  let address ← (Address.target url).mapError fun e => raised "InvalidURL" e.message
  let key ← (keyText key).mapError KeyError.raised
  address.checkNaming.mapError NamingError.raised
  return ⟨address.text, key, content⟩

/-! ### What comes of it -/

/-- What is raised by an answer to a request that goes to a path alone. -/
def refusal? (r : Request) : Option Raised :=
  if r.url.toList.head? = some '/' then
    some (raised "ValueError" ("unknown url type: " ++ Text.quoted r.url))
  else none

/-- Whether a status is a success. -/
def isSuccess (status : Int) : Bool :=
  200 ≤ status && status < 300

/-- What carries requests on the web. -/
def http : Http where
  compose url key content _ := compose url key content
  refusal? r _ _ := refusal? r
  isSuccess := isSuccess

end LeafSwitch.Web
