import LeafSwitch.Switch
import LeafSwitch.Text.Blank

/-!
# Commands

A line of the operator is a command of its own. What the device answers is text; an answer that
starts with a percent sign is a refusal, and an empty one means that the command was carried out in
silence. There is no answer where a VLAN is too long or the time of a log entry lies outside of the
calendar, and either is to be shown.
-/

namespace LeafSwitch

/-- A command of the operator. -/
inductive Command where
  /-- Nothing. -/
  | nothing
  /-- Show the interfaces. -/
  | showInterfaces
  /-- Show the VLANs. -/
  | showVlans
  /-- Show the version. -/
  | showVersion
  /-- Show the end of the log. -/
  | showLog
  /-- Show something that cannot be shown. -/
  | showOther
  /-- Configure an interface, which takes more than one line. -/
  | configure
  /-- Put the interface that a text refers to into a state. -/
  | setStatus (ref : Option String) (status : Status) (severity : Severity)
  /-- Name the switch. -/
  | setHostname (name : String)
  /-- Tell the commands. -/
  | help
  /-- A command that there is not. -/
  | unknown (word : String)
  deriving DecidableEq, Repr

namespace Command

/-- The command for what is to be shown. -/
def ofShown : List String → Command
  | "interfaces" :: _ => showInterfaces
  | "vlan" :: _ => showVlans
  | "version" :: _ => showVersion
  | "log" :: _ => showLog
  | "logging" :: _ => showLog
  | _ => showOther

/-- The command that a first word, in small letters, makes with the words behind it. -/
def ofWords (word : String) (args : List String) : Command :=
  if word = "show" then ofShown args
  else if word = "interface" || word = "int" then configure
  else if word = "shutdown" then setStatus args.head? .adminDown .warning
  else if word = "help" || word = "?" then help
  else
    match word, args with
    | "no", "shutdown" :: rest => setStatus rest.head? .up .info
    | "hostname", name :: _ => setHostname name
    | _, _ => unknown word

/-- The command on a line. -/
def ofLine (line : String) : Command :=
  match Text.wordsOf line with
  | [] => nothing
  | first :: args => ofWords (Text.lowered first) args

/-- The version of the switch. -/
def versionText : String := "Stratus EOS v4.32.1F (Simulated)"

/-- The head of the table of interfaces. -/
def tableHead : String :=
  Text.join "\n"
    ["Interface       Status      Protocol    Description",
      "--------------  ----------  ----------  -------------------------"]

/-- The row of an interface. -/
def tableRow (i : Interface) : String :=
  Text.padRight 14 i.name ++ "  " ++ Text.padRight 10 i.status.keyword ++ "  " ++
    Text.padRight 10 (if i.protocolUp then "up" else "down") ++ "  " ++ i.description

/-- The table of interfaces. -/
def table (d : Device) : String :=
  Text.join "\n" (tableHead :: d.interfaces.map tableRow)

/-- The commands there are. -/
def helpText : String :=
  Text.join "\n"
    ["",
      "Available Commands:",
      "  show interfaces      Show interface status",
      "  show vlan           Show active VLANs",
      "  show version        Show system version",
      "  show logging        Show recent logs",
      "  shutdown <int>      Disable an interface (e.g., shutdown et1)",
      "  no shutdown <int>   Enable an interface",
      "  hostname <name>     Set switch hostname",
      "  ai <intent>         Use Gemini to generate config",
      "  analyze             Summarize recent logs with Gemini",
      "  clear               Clear screen",
      ""]

/-- How many log entries are shown. -/
def logShown : Nat := 10

/-- The end of the log as it is shown. -/
def logText (d : Device) : Except Time.TimeError String := do
  let lines ← (d.recent logShown).mapM LogEntry.render
  return Text.join "\n" lines

/-- The answer to a command. -/
def answer (d : Device) : Command → Except DisplayError String
  | nothing => .ok ""
  | showInterfaces => .ok (table d)
  | showVlans => (d.vlanText.map ("VLANs: " ++ ·)).mapError .vlan
  | showVersion => .ok versionText
  | showLog => (logText d).mapError .time
  | showOther => .ok "% Invalid input detected at marker"
  | configure =>
    .ok "% Incomplete command. (Simulation Note: Use 'ai <intent>' for complex config changes)"
  | setStatus _ _ _ => .ok ""
  | setHostname _ => .ok ""
  | help => .ok helpText
  | unknown word => .ok ("% Unknown command: " ++ word)

/-- What a command changes, if anything. -/
def change? (d : Device) : Command → Option Change
  | setStatus ref status severity =>
    (d.find? ref).map fun i =>
      { hostname := none
        interfaces := [(i.id, { i with status })]
        vlans := []
        notices := [⟨severity, "NbInterface",
          "Interface " ++ i.name ++ " changed state to " ++ status.keyword⟩] }
  | setHostname name =>
    some
      { hostname := some name
        interfaces := []
        vlans := []
        notices := [⟨.info, "System", "Hostname changed to " ++ name⟩] }
  | _ => none

/-- The details of a line for the journal: its words, and a reference that fits no interface. -/
def details (d : Device) (line : String) : List String :=
  match Text.wordsOf line with
  | [] => []
  | first :: args =>
    let word := Text.lowered first
    ("interpret: cmd=" ++ Text.quoted word ++ " args=" ++ Text.quotedList args) ::
      match ofWords word args with
      | setStatus ref _ _ =>
        if (d.find? ref).isNone then
          ["No interface matches " ++ Text.quotedOption ref]
        else []
      | _ => []

end Command

namespace Switch

/-- The channel of the journal for commands. -/
def commandChannel : String := "stratus_sim.cli.interpreter"

/-- Carry out the change of a command. -/
def execute (sw : Switch) (c : Command) : Switch :=
  match c.change? sw.device with
  | none => sw
  | some change => sw.perform change

/-- The text of a failure, if there is one. -/
def failureOf {α : Type} : Except DisplayError α → Option String
  | .ok _ => none
  | .error e => some e.message

/-- Carry out the command on a line, and give the answer. -/
def interpret (sw : Switch) (line : String) : Except DisplayError String × Switch :=
  let (start, site) := sw.site.tick
  let command := Command.ofLine line
  let answer := command.answer sw.device
  let details := (Command.details sw.device line).map (Site.Record.debug commandChannel)
  let after := { sw with site := site.reportAll details }.execute command
  let site := after.site.finish "interpret" sw.device.hostname start (failureOf answer) []
  (answer, { after with site })

end Switch

end LeafSwitch
