import WifiNames.Dialogue
import WifiNames.Program.Options
import WifiNames.Scan.Annotate
import WifiNames.Settings.Store

namespace WifiNames.Program

/-!
# Program — runs from the command line

* `settings` — the settings of a run.
* `work` — what a run prints for its names, its input or its dialogue.
* `session` — the work within a session, and the history at its end.
* `run` — a whole run.

Names and look-ups in the arguments come first; without any the input is read, as a dialogue if
it is typed and as scan output otherwise.
-/

/-- The input of a run. -/
structure Input where
  content : Bytes
  /-- Whether somebody types it. -/
  typed : Bool

/-- What a run leaves behind. -/
structure Outcome where
  exitCode : UInt8
  transcript : Transcript
  deriving DecidableEq

/-! ### Halts and failures -/

/-- The name of the program and its version. -/
def versionLine : Text :=
  "ssid-gbk 0.0.1\n".toList

/-- The description of the arguments. -/
def helpText : Text :=
  "Detect, convert and look up GBK-encoded Wi-Fi SSIDs

Usage: ssid-gbk [OPTIONS] [SSID]...

Arguments:
  [SSID]...  SSIDs to classify and convert

Options:
  -x, --hex            Read SSID arguments as hex instead of escaped text
  -l, --lookup <SSID>  Look up an SSID in the history after converting (repeatable)
      --history        Print the conversion history at the end
  -j, --json           Output JSON format
  -v, --verbose        Show debug logging
  -c, --config <FILE>  Use a specific config file
  -h, --help           Print help
  -V, --version        Print version
".toList

/-- What is left behind where there is no run. -/
def Halt.outcome : Halt → Outcome
  | version => ⟨0, ⟨versionLine, []⟩⟩
  | help => ⟨0, ⟨helpText, []⟩⟩
  | misuse reason => ⟨2, ⟨[], "error: ".toList ++ reason.toList ++ ['\n']⟩⟩

/-- A text whose lines are indented, but for the first one. -/
def hang (width : Nat) (t : Text) : Text :=
  t.flatMap fun c => if c = '\n' then '\n' :: List.replicate width ' ' else [c]

/-- The causes of a failure on lines of their own, numbered from `n` on. -/
def numberCauses (n : Nat) : List String → Text
  | [] => []
  | cause :: rest =>
    "    ".toList ++ (toString n).toList ++ ": ".toList ++ hang 7 cause.toList
      ++ '\n' :: numberCauses (n + 1) rest

/-- The causes of a failure on lines of their own; they are numbered if there are several. -/
def writeCauses : List String → Text
  | [cause] => "    ".toList ++ hang 4 cause.toList ++ ['\n']
  | causes => numberCauses 0 causes

/-- The message that the program has failed. -/
def failureText (e : Error) : Text :=
  "Error: ssid-gbk failed\n\nCaused by:\n".toList ++ writeCauses (e.message :: e.causes)

/-- The message that the settings could not be loaded. -/
def warningText (e : Error) : Text :=
  ("Warning: Failed to load config: " ++ e.message ++ ", using defaults\n").toList

/-! ### The work -/

/-- How names are typed and how reports are printed in a run. -/
def Options.manner (o : Options) (s : Settings) : Manner :=
  ⟨o.hex, s.json || o.json⟩

/-- How annotated lines are written in a run. -/
def Options.style (o : Options) (env : Environment) (s : Settings) : Scan.Style :=
  ⟨s.json || o.json, s.colours && env.forcesColour⟩

/-- The commands that the arguments stand for. -/
def Options.commands (o : Options) : List Command :=
  o.names.map (Command.convert ·.toList) ++ o.queries.map (Command.lookup ·.toList)

/-- The commands at the end of a run. -/
def Options.lastCommands (o : Options) : List Command :=
  if o.history then [.history] else []

/-- Performs commands; the first failure ends the run. -/
def perform (manner : Manner) (commands : List Command) (r : Registry) :
    Noted (Transcript × Option Error × Registry) := do
  let (printed, failure, r) ← Command.performAll manner r commands
  return (⟨printed, []⟩, failure, r)

/-- Annotates scan output, which must be text as a whole. -/
def annotate (style : Scan.Style) (content : Bytes) (r : Registry) :
    Noted (Transcript × Option Error × Registry) :=
  match Utf8.decode? content with
  | none => pure (.empty, some .notText, r)
  | some text => do
    let (lines, r) ← r.annotateLines style (Text.lines text)
    return (⟨lines.flatMap (· ++ ['\n']), []⟩, none, r)

/-- Answers typed lines after a greeting. -/
def converse (manner : Manner) (content : Bytes) (r : Registry) :
    Noted (Transcript × Option Error × Registry) := do
  let (printed, failure, r) ← Dialogue.run manner r (Text.byteLines content)
  return (⟨Dialogue.greeting, []⟩ ++ printed, failure, r)

/-- Does what the arguments ask for. -/
def work (o : Options) (manner : Manner) (style : Scan.Style) (input : Input) (r : Registry) :
    Noted (Transcript × Option Error × Registry) :=
  if !o.commands.isEmpty then perform manner o.commands r
  else if input.typed then converse manner input.content r
  else annotate style input.content r

/-- Ends a run: prints the history if that is asked for, and closes the session. -/
def finish (o : Options) (manner : Manner) (r : Registry) : Noted (Transcript × Option Error) := do
  let (printed, failure, r) ← perform manner o.lastCommands r
  if failure.isNone then
    let _ ← r.stop
  return (printed, failure)

/-- Does the work of a run within a session.  Answers what is printed, and why the run failed if
    it did. -/
def session (o : Options) (manner : Manner) (style : Scan.Style) (input : Input) (r : Registry) :
    Noted (Transcript × Option Error) := do
  let (printed, failure, r) ← work o manner style input (← r.start)
  match failure with
  | some e => return (printed, some e)
  | none =>
    let (more, failure) ← finish o manner r
    return (printed ++ more, failure)

/-- The outcome of a run that printed something and may have failed. -/
def outcome (printed : Transcript) : Option Error → Outcome
  | none => ⟨0, printed⟩
  | some e => ⟨1, printed ++ ⟨[], failureText e⟩⟩

/-! ### Runs -/

variable {m : Type → Type} [Monad m]

/-- The settings of a run, and the message if they could not be loaded.  In that case the default
    settings hold, even those that `Settings.validate` refuses. -/
def settings (files : Files m) (env : Environment) (o : Options) : m (Settings × Text) := do
  let loaded ← match o.file with
    | some path => Settings.loadFrom files env (env.expandHome path)
    | none => Settings.load files env
  match loaded with
  | .ok s => return (s, [])
  | .error e => return (Settings.default env, warningText e)

/-- A run with the given settings. -/
def runWith (o : Options) (env : Environment) (s : Settings) (warning : Text) (input : Input) :
    Noted Outcome := do
  let (printed, failure) ← session o (o.manner s) (o.style env s) input s.registry
  return outcome (⟨[], warning⟩ ++ printed) failure

/-- A whole run. -/
def run (files : Files m) (env : Environment) (args : List String) (input : Input) :
    m (Noted Outcome) := do
  match Options.read args with
  | .error halt => return pure halt.outcome
  | .ok o =>
    let (s, warning) ← settings files env o
    return runWith o env s warning input

end WifiNames.Program
