import WifiNames.Report
import WifiNames.Text.Blank
import WifiNames.Text.Escape
import WifiNames.Text.Hex.Reader

namespace WifiNames

/-!
# Commands — what can be asked for by words

* `Command` — a request with its names as they were typed.
* `Command.ofLine` — reads a typed line.
* `Command.perform` — performs a command; answers what is to be printed.
* `Command.performAll` — performs commands until one of them fails.
-/

/-- A request with its names as they were typed. -/
inductive Command where
  /-- A line without words. -/
  | blank
  | quit
  | classify (name : Text)
  | convert (name : Text)
  | lookup (name : Text)
  | record (raw converted : Text)
  | history
  | reset
  /-- Anything else. -/
  | help
  deriving DecidableEq

/-- How names are typed and how reports are printed. -/
structure Manner where
  /-- Names are typed in hex rather than as escaped text. -/
  hex : Bool
  /-- Reports are JSON values rather than lines of text. -/
  json : Bool
  deriving DecidableEq

namespace Command

/-- The command with the given words. -/
def ofWords : List Text → Command
  | [] => .blank
  | word :: args =>
    match String.ofList word, args with
    | "quit", _ | "exit", _ => .quit
    | "classify", [name] => .classify name
    | "convert", [name] => .convert name
    | "lookup", [name] => .lookup name
    | "record", [raw, converted] => .record raw converted
    | "history", [] => .history
    | "reset", [] => .reset
    | _, _ => .help

/-- The command that a line asks for. -/
def ofLine (line : Text) : Command :=
  ofWords (Text.words line)

/-- The line that lists the commands. -/
def usage : Text :=
  ("commands: classify <ssid> | convert <ssid> | lookup <ssid> | record <original> <converted>"
    ++ " | history | reset | quit").toList

end Command

namespace Manner

/-- The bytes of a typed name. -/
def read (manner : Manner) (name : Text) : Except Error Bytes :=
  if manner.hex then Hex.read name else .ok (Escape.decode name)

/-- A report on a name, with the end of its line. -/
def writeReport (manner : Manner) (report : NameReport) : Text :=
  (if manner.json then report.json.pretty else report.line) ++ ['\n']

/-- A report on a look-up, with the end of its line. -/
def writeLookup (manner : Manner) (report : LookupReport) : Text :=
  (if manner.json then report.json.pretty else report.line) ++ ['\n']

/-- Remembered conversions, with the ends of their lines. -/
def writeHistory (manner : Manner) (entries : List Entry) : Text :=
  if manner.json then (Json.list (entries.map Entry.json)).pretty ++ ['\n']
  else entries.flatMap fun e => e.line ++ ['\n']

end Manner

namespace Command

/-- The line that tells whether a name is a GBK name. -/
def writeVerdict (name : Text) (raw : Bytes) : Text :=
  name ++ (if isGbkName raw then " -> GBK\n" else " -> not GBK\n").toList

/-- Performs a command.  Answers what is to be printed, or why the command failed. -/
def perform (manner : Manner) (r : Registry) : Command → Noted (Except Error Text × Registry)
  | .blank | .quit => pure (.ok [], r)
  | .classify name =>
    match manner.read name with
    | .error e => pure (.error e, r)
    | .ok raw => pure (.ok (writeVerdict name raw), r)
  | .convert name =>
    match manner.read name with
    | .error e => pure (.error e, r)
    | .ok raw => do
      let (report, r) ← r.report name raw
      return (.ok (manner.writeReport report), r)
  | .lookup name =>
    match manner.read name with
    | .error e => pure (.error e, r)
    | .ok raw => do
      return (.ok (manner.writeLookup (← r.lookupReport name raw)), r)
  | .record raw converted =>
    match manner.read raw, manner.read converted with
    | .error e, _ => pure (.error e, r)
    | .ok _, .error e => pure (.error e, r)
    | .ok raw, .ok converted => do
      let (outcome, r) ← r.record raw converted
      return (outcome.map fun _ => [], r)
  | .history => do
    r.dump
    return (r.entries.map manner.writeHistory, r)
  | .reset => do return (.ok [], ← (← r.stop).start)
  | .help => pure (.ok (usage ++ ['\n']), r)

/-- Performs commands until one of them fails.  Answers what is to be printed, the failure if
    there was one, and the registry. -/
def performAll (manner : Manner) (r : Registry) :
    List Command → Noted (Text × Option Error × Registry)
  | [] => pure ([], none, r)
  | command :: rest => do
    match ← command.perform manner r with
    | (.error e, r) => return ([], some e, r)
    | (.ok printed, r) =>
      let (more, failure, r) ← performAll manner r rest
      return (printed ++ more, failure, r)

end Command

end WifiNames
