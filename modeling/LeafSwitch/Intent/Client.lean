import LeafSwitch.Intent.Http
import LeafSwitch.Intent.Prompt
import LeafSwitch.Intent.Reply
import LeafSwitch.Intent.Retry
import LeafSwitch.Json.Encoding
import LeafSwitch.Json.Reader
import LeafSwitch.Settings

/-!
# The model client

The client asks the model service and makes every failure into a text: a comment line where a block
was wanted, so that applying it does nothing. Each attempt makes its request anew.
-/

namespace LeafSwitch.Intent

open Number (Binary64)

/-- What the client says without a key. -/
def noKeyText : String := "! Error: API Key not configured."

/-- What the client says where no block came of a request. -/
def noBlockText : String := "! Error generating configuration. Please check system logs."

/-- What the client says where no analysis came of a request. -/
def noAnalysisText : String := "Error analyzing telemetry data."

/-- Why a request yields no text. -/
inductive ClientError where
  /-- There is nothing to ask: what the prompt tells of cannot be shown. -/
  | prompt (cause : DisplayError)
  /-- There is nowhere to ask: what the address is made of cannot be shown. -/
  | address (cause : ShowError)
  /-- The exchange fails. -/
  | failed (cause : Failure)
  /-- The answer is no text. -/
  | encoding (cause : Json.DecodeError)
  /-- The answer is not JSON. -/
  | json (cause : Json.ReadError)
  /-- The answer holds no text. -/
  | reply (cause : ReplyError)
  deriving DecidableEq, Repr

namespace ClientError

/-- The wording of a failure. -/
def message : ClientError → String
  | prompt cause => cause.message
  | address cause => cause.message
  | failed cause => cause.message
  | encoding cause => cause.message
  | json cause => cause.message
  | reply cause => cause.message

/-- Whether a request that failed so is made again. -/
def mayPass : ClientError → Bool
  | failed cause => cause.mayPass
  | _ => false

end ClientError

/-- The text that an outcome of a request yields. -/
def Outcome.text (http : Http) (nesting : Nesting) (r : Request) :
    Outcome → Except ClientError String
  | .lost cause => .error (.failed cause)
  | .answered status body => do
    if let some cause := http.refusal? r status body then .error (.failed (.raised cause))
    if !http.isSuccess status then .error (.failed (.status status))
    let text ← (Json.decode body).mapError .encoding
    let payload ← (Json.read nesting.json text).mapError .json
    (replyText nesting.shown payload).mapError .reply

/-- A client with its settings, the bounds of its waits, and what it makes requests by. -/
structure Client where
  /-- The settings. -/
  settings : Settings
  /-- The least wait between attempts, in seconds. -/
  minWait : Binary64
  /-- The longest wait between attempts, in seconds. -/
  maxWait : Binary64
  /-- What carries its requests. -/
  http : Http
  /-- What repeats them. -/
  retrier : Retrier ClientError String

namespace Client

/-- Whether the client has a key. -/
def isConfigured (c : Client) : Bool :=
  c.settings.geminiApiKey.truthy

/-- Where requests go, where `room` tells how deep values may be shown. -/
def url (c : Client) (room : Nat) : Except ShowError String := do
  let endpoint ← c.settings.geminiEndpoint.text room
  let model ← c.settings.geminiModel.text room
  return endpoint ++ "/models/" ++ model ++ ":generateContent"

/-- The content of the request that carries a prompt. -/
def content (prompt : String) : Value :=
  .map [(.str "contents", .list [.map [(.str "parts", .list [.map [(.str "text", .str prompt)]])]])]

/-- The request that carries a prompt. -/
def request (c : Client) (room : Nat) (prompt : String) : Except ClientError Request := do
  let url ← (c.url room).mapError .address
  let key := if c.isConfigured then c.settings.geminiApiKey else .str ""
  (c.http.compose url key (content prompt) c.settings.geminiTimeout).mapError
    fun cause => .failed (.raised cause)

/-- The text that an attempt yields, where the outcomes are given by the number of the attempt. -/
def send (c : Client) (nesting : Nesting) (prompt : String) (outcomes : Nat → Outcome)
    (attempt : Nat) : Except ClientError String := do
  let r ← c.request nesting.shown prompt
  (outcomes attempt).text c.http nesting r

/-- The attempts at getting a text for a prompt. -/
def attempts (c : Client) (nesting : Nesting) (prompt : String) (outcomes : Nat → Outcome) :
    Attempts ClientError String :=
  c.retrier.attempts c.settings.geminiRetries c.minWait c.maxWait ClientError.mayPass
    (c.send nesting prompt outcomes)

/-- The requests of a number of attempts; none is made where there is no request to make. -/
def requests (c : Client) (room : Nat) (prompt : String) (calls : Nat) : List Request :=
  match c.request room prompt with
  | .error _ => []
  | .ok r => List.replicate calls r

end Client

/-- The channel of the journal for the client. -/
def clientChannel : String := "stratus_sim.intent.gemini"

/-- The channel of the journal for repeated attempts. -/
def retryChannel : String := "stratus_sim.utils.connection"

/-- What is attempted, as the journal names it. -/
def attempted : String := "stratus_sim.intent.gemini.GeminiClient._send"

/-- The record of a wait before another attempt. -/
def Client.waitRecord (c : Client) (e : ClientError) (wait : Binary64) : Site.Record :=
  .warning retryChannel (c.retrier.note attempted e wait)

/-- What a client gets, with the requests it made. -/
structure Exchange (α : Type) where
  /-- What it gets. -/
  result : α
  /-- The requests. -/
  requests : List Request
  /-- The site afterwards. -/
  site : Site

namespace Client

/-- Ask the service. The section is timed, and its record tells the model; where the model cannot be
shown there is no record, and that is the failure. -/
def generate (c : Client) (s : Site) (prompt : String) (outcomes : Nat → Outcome) :
    Exchange (Except ClientError String) :=
  let (start, s) := s.tick
  let tries := c.attempts s.nesting prompt outcomes
  let requests := c.requests s.nesting.shown prompt tries.calls
  let s := s.reportAll (tries.waits.map fun (e, wait) => c.waitRecord e wait)
  let failure := match tries.outcome with
    | .ok _ => none
    | .error e => some e.message
  match c.settings.geminiModel.text s.nesting.shown with
  | .ok model =>
    ⟨tries.outcome, requests, s.finish "gemini_generate" "" start failure [("model", model)]⟩
  | .error cause => ⟨.error (.address cause), requests, s.tick.2⟩

/-- Ask the service if there is a key, and make a failure into a text. -/
def generateOr (c : Client) (s : Site) (task fallback : String)
    (prompt : Except DisplayError String) (outcomes : Nat → Outcome) :
    Exchange (Except String String) :=
  if !c.isConfigured then
    ⟨.error noKeyText, [], s.report (.warning clientChannel "No API key provided for Gemini")⟩
  else
    let exchange : Exchange (Except ClientError String) := match prompt with
      | .ok prompt => c.generate s prompt outcomes
      | .error cause => ⟨.error (.prompt cause), [], s⟩
    match exchange.result with
    | .ok text => ⟨.ok text, exchange.requests, exchange.site⟩
    | .error e =>
      ⟨.error fallback, exchange.requests,
        exchange.site.report (.error clientChannel ("Gemini " ++ task ++ " error: " ++ e.message))⟩

/-- The block for an intent; it is a comment where there is none. -/
def configFor (c : Client) (s : Site) (intent : String) (d : Device) (outcomes : Nat → Outcome) :
    Exchange String :=
  let prompt := (configPrompt intent d).mapError .vlan
  let exchange := c.generateOr s "config" noBlockText prompt outcomes
  let block := match exchange.result with
    | .ok text => withoutFences text
    | .error text => text
  ⟨block, exchange.requests, exchange.site⟩

/-- The analysis of the end of a log. -/
def analysisOf (c : Client) (s : Site) (logs : List LogEntry) (outcomes : Nat → Outcome) :
    Exchange String :=
  let prompt := (analysisPrompt logs).mapError .time
  let exchange := c.generateOr s "analysis" noAnalysisText prompt outcomes
  let text := match exchange.result with
    | .ok text => text
    | .error text => text
  ⟨text, exchange.requests, exchange.site⟩

end Client

end LeafSwitch.Intent
