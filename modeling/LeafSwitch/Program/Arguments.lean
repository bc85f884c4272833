import LeafSwitch.Number.Digit

/-!
# Arguments

Options start with two dashes. A long option may be shortened as long as it stays the only one that
it can be, and a value may follow an equals sign. The short option for help may be repeated behind
its dash. Every other argument is refused.
-/

namespace LeafSwitch.Program

/-- What the program is started with. -/
structure Options where
  /-- The seed file. -/
  seed : Option String
  /-- Whether telemetry runs. -/
  telemetry : Bool
  /-- The level of the console log. -/
  logLevel : Option String
  deriving DecidableEq, Repr

/-- Why the program does not start. -/
inductive Refusal where
  /-- Only help was wanted. -/
  | help
  /-- The arguments are wrong. -/
  | usage
  deriving DecidableEq, Repr

/-- The exit code of a refusal. -/
def Refusal.exitCode : Refusal → Nat
  | .help => 0
  | .usage => 2

/-- The options there are. -/
inductive Flag where
  /-- Tell the usage. -/
  | help
  /-- Name the seed file. -/
  | seed
  /-- Leave telemetry out. -/
  | noTelemetry
  /-- Name the level of the console log. -/
  | logLevel
  deriving DecidableEq, Repr

namespace Flag

/-- The spellings of options. -/
def spellings : List (String × Flag) :=
  [("-h", help), ("--help", help), ("--seed", seed), ("--no-telemetry", noTelemetry),
    ("--log-level", logLevel)]

end Flag

/-- An argument by itself. -/
inductive Argument where
  /-- An option, with the value it carries, if it carries one. -/
  | flag (flag : Flag) (value : Option String)
  /-- The short help option with letters behind it, or behind an equals sign. -/
  | letters (behind : List Char)
  /-- Something that looks like an option. -/
  | unknown
  /-- A plain text. -/
  | text (value : String)
  /-- Two dashes, behind which all arguments are plain. -/
  | divider
  deriving DecidableEq, Repr

/-- The text before an equals sign, and the text behind it, if there is one. -/
def splitEquals (cs : List Char) : List Char × Option (List Char) :=
  match cs.dropWhile (· != '=') with
  | [] => (cs, none)
  | _ :: value => (cs.takeWhile (· != '='), some value)

/-- Whether a text is a negative number; a line break behind it does not count. -/
def isNegativeNumber (cs : List Char) : Bool :=
  match if cs.getLast? = some '\n' then cs.dropLast else cs with
  | '-' :: body =>
    let isDigit (c : Char) := (Number.digit? c).isSome
    match body.dropWhile isDigit with
    | [] => !body.isEmpty
    | '.' :: part => !part.isEmpty && part.all isDigit
    | _ => false
  | _ => false

/-- What an argument with a dash at its start is if it is no option. -/
def notOption (cs : List Char) : Argument :=
  if isNegativeNumber cs || cs.contains ' ' then .text (String.ofList cs) else .unknown

/-- The options that a text with two dashes can be short for. -/
def longMatches (name : List Char) : List Flag :=
  (Flag.spellings.filter fun (spelling, _) => name.isPrefixOf spelling.toList).map (·.2)

/-- Classify an argument that starts with a dash, is longer than that, and is no option as it
stands. -/
def classifyDashed (cs : List Char) : Except Refusal Argument :=
  let (name, value) := splitEquals cs
  match value, Flag.spellings.lookup (String.ofList name) with
  | some value, some flag =>
    .ok (if name = ['-', 'h'] then .letters value else .flag flag (some (String.ofList value)))
  | _, _ =>
    match cs with
    | '-' :: '-' :: _ =>
      match longMatches name with
      | [] => .ok (notOption cs)
      | [flag] => .ok (.flag flag (value.map String.ofList))
      | _ => .error .usage
    | '-' :: 'h' :: rest => .ok (.letters rest)
    | _ => .ok (notOption cs)

/-- Classify an argument. -/
def classify (argument : String) : Except Refusal Argument :=
  if argument = "--" then .ok .divider
  else
    match Flag.spellings.lookup argument with
    | some flag => .ok (.flag flag none)
    | none =>
      match argument.toList with
      | '-' :: c :: cs => classifyDashed ('-' :: c :: cs)
      | cs => .ok (.text (String.ofList cs))

/-- Classify arguments up to the divider. -/
def classifyAll : List String → Except Refusal (List Argument)
  | [] => .ok []
  | argument :: rest => do
    let first ← classify argument
    if first = .divider then return .divider :: rest.map .text
    else return first :: (← classifyAll rest)

/-- What comes of letters behind the short help option: each of them is an option with one dash, and
help is the only one there is. -/
def lettersRefusal (behind : List Char) : Refusal :=
  if !behind.isEmpty && behind.all (· == 'h') then .help else .usage

/-- Set an option that has a value. -/
def Options.set (o : Options) (flag : Flag) (value : String) : Options :=
  match flag with
  | .seed => { o with seed := some value }
  | .logLevel => { o with logLevel := some value }
  | _ => o

/-- Go through arguments in order; `extra` holds once one was met that is refused in the end. -/
def collect (o : Options) (extra : Bool) : List Argument → Except Refusal Options
  | [] => if extra then .error .usage else .ok o
  | .flag .help value :: _ => .error (if value.isSome then .usage else .help)
  | .letters behind :: _ => .error (lettersRefusal behind)
  | .flag .noTelemetry value :: rest =>
    if value.isSome then .error .usage else collect { o with telemetry := false } extra rest
  | .flag flag (some value) :: rest => collect (o.set flag value) extra rest
  | .flag flag none :: .text value :: rest => collect (o.set flag value) extra rest
  | .flag _ none :: _ => .error .usage
  | _ :: rest => collect o true rest

/-- Read the arguments. -/
def readArguments (arguments : List String) : Except Refusal Options := do
  collect ⟨none, true, none⟩ false (← classifyAll arguments)

end LeafSwitch.Program
