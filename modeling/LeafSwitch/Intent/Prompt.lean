import LeafSwitch.Device.State
import LeafSwitch.Text.Lines

/-!
# Prompts

What the model is asked: to turn the operator's intent into a block, or to look through the end of
the log. There is no prompt where a VLAN of the device is too long to be shown, or the time of a log
entry lies outside of the calendar.
-/

namespace LeafSwitch.Intent

/-- The log entries that are looked through. -/
def analysedEntries : Nat := 15

/-- An interface in a prompt. -/
def interfaceText (i : Interface) : String :=
  i.name ++ "(" ++ i.status.keyword ++ ")"

/-- The request for a block that does what the operator wants of a device. -/
def configPrompt (intent : String) (d : Device) : Except ShowError String := do
  let vlans ← d.vlanText
  return Text.join "\n"
    ["",
      "You are an expert Network Engineer specializing in Arista EOS.",
      "",
      "Current Switch State Summary:",
      "Hostname: " ++ d.hostname,
      "Interfaces: " ++ Text.join ", " (d.interfaces.map interfaceText),
      "VLANs: " ++ vlans,
      "",
      "User Intent: \"" ++ intent ++ "\"",
      "",
      "Task: Convert the user's natural language intent into valid EOS CLI configuration commands.",
      "Return ONLY the commands. Do not add markdown formatting like ```.",
      "If the intent is unclear or unsafe, return a comment starting with \"!\" explaining why.",
      "",
      "Example Output:",
      "enable",
      "configure terminal",
      "interface Ethernet2",
      "switchport access vlan 20",
      "exit",
      ""]

/-- A log entry in a prompt. -/
def entryText (e : LogEntry) : Except Time.TimeError String := do
  let time ← e.time.text?
  return "[" ++ time ++ "] " ++ e.notice.severity.keyword ++ " " ++ e.notice.process ++ ": " ++
    e.notice.message

/-- The request for a look at the end of a log. -/
def analysisPrompt (logs : List LogEntry) : Except Time.TimeError String := do
  let entries ← (logs.drop (logs.length - analysedEntries)).mapM entryText
  return Text.join "\n"
    ["",
      "You are a Cloud Telemetry Analysis AI.",
      "Analyze the following system logs from a network switch for anomalies, security risks, " ++
        "or root causes of failure.",
      "",
      "Logs:",
      Text.join "\n" entries,
      "",
      "Provide a concise, bulleted summary of the health status and any recommended actions.",
      ""]

end LeafSwitch.Intent
