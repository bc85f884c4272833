import LeafSwitch.Site.Files
import LeafSwitch.Site.Journal

/-!
# The site

All that surrounds the device: clocks, ids for log entries, the environment, files and the journal.
What clocks will show and which ids will be drawn is given beforehand. A notice goes on record with
the next id and the next reading of the clock.
-/

namespace LeafSwitch

/-- How deep sequences and mappings may lie in each other. -/
structure Nesting where
  /-- In JSON that is read. -/
  json : Nat
  /-- In documents that are read. -/
  document : Nat
  /-- In values that are shown. -/
  shown : Nat
  deriving DecidableEq, Repr

/-- The surroundings of a device. -/
structure Site where
  /-- The calendar clock. -/
  clock : Site.Clock
  /-- The ids for log entries, counted from 0. -/
  ids : Nat → String
  /-- The ids drawn so far. -/
  entries : Nat
  /-- What the stopwatch shows at each reading, in seconds. -/
  stopwatch : Nat → Number.Binary64
  /-- The readings of the stopwatch taken so far. -/
  timings : Nat
  /-- When each telemetry sample is taken, in seconds since 1970. -/
  seconds : Nat → Number.Binary64
  /-- The telemetry samples taken so far. -/
  samples : Nat
  /-- The environment variables. -/
  env : List (String × String)
  /-- The home directories by the names of users; no name stands for the own one. -/
  homes : List (String × String)
  /-- How deep values may nest. -/
  nesting : Nesting
  /-- The files. -/
  files : Site.Files
  /-- The audit file, once there is one. -/
  auditFile : Option String
  /-- The journal, oldest record first. -/
  journal : List Site.Record

namespace Site

open Number (Binary64)

/-- The value of an environment variable. -/
def fromEnv? (s : Site) (name : String) : Option String :=
  s.env.lookup name

/-- The home directory of a user; for the own one the environment counts first. -/
def homeOf (s : Site) (name : String) : Option String :=
  if name.isEmpty then (s.fromEnv? "HOME").or (s.homes.lookup name) else s.homes.lookup name

/-- A path with a leading tilde taken for a home directory. -/
def expanded (s : Site) (path : String) : String :=
  Path.expandHome s.homeOf path

/-- Add a record to the journal. -/
def report (s : Site) (r : Record) : Site :=
  { s with journal := s.journal ++ [r] }

/-- Add records to the journal. -/
def reportAll (s : Site) (records : List Record) : Site :=
  { s with journal := s.journal ++ records }

/-- Take a reading of the stopwatch. -/
def tick (s : Site) : Binary64 × Site :=
  (s.stopwatch s.timings, { s with timings := s.timings + 1 })

/-- Report that a section ended that began at a reading of the stopwatch. -/
def finish (s : Site) (operation hostname : String) (start : Binary64) (failure : Option String)
    (extra : List (String × String)) : Site :=
  let (stop, s) := s.tick
  s.report (timingRecord operation hostname (elapsed start stop) failure extra)

/-- The site after an entry has been made. -/
def advanced (s : Site) : Site :=
  { s with entries := s.entries + 1, clock := s.clock.advanced }

/-- Put a notice on record. -/
def stamp (s : Site) (n : Notice) : LogEntry × Site :=
  (⟨s.ids s.entries, s.clock.now, n⟩, s.advanced)

/-- Put notices on record in their order. -/
def stampAll (s : Site) : List Notice → List LogEntry × Site
  | [] => ([], s)
  | n :: rest =>
    let (entry, s) := s.stamp n
    let (entries, s) := s.stampAll rest
    (entry :: entries, s)

end Site

end LeafSwitch
