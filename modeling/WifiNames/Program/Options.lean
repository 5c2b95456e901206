namespace WifiNames.Program

/-!
# Options — the arguments of the program

* `Options` — what a run is asked to do.
* `Halt` — why there is no run.
* `Options.read` — reads arguments from left to right; the first reason to halt counts.

An option with a value takes the rest of its argument, after an equals sign if there is one, or
else the next argument, which must not look like an option.  Letters may be joined behind one
dash.
-/

/-- What a run is asked to do. -/
structure Options where
  /-- The names to convert. -/
  names : List String
  /-- The names to look up. -/
  queries : List String
  /-- Whether names are typed in hex. -/
  hex : Bool
  /-- Whether the history is printed at the end. -/
  history : Bool
  /-- Whether reports are JSON values, whatever the settings say. -/
  json : Bool
  /-- Whether diagnostics are shown, whatever the settings say. -/
  verbose : Bool
  /-- The settings file to read instead of the usual one. -/
  file : Option String
  deriving DecidableEq

/-- Why there is no run. -/
inductive Halt where
  | version
  | help
  | misuse (reason : String)
  deriving DecidableEq

/-- An option without a value. -/
inductive Switch where
  | hex
  | history
  | json
  | verbose
  deriving DecidableEq

/-- An option with a value. -/
inductive Slot where
  | query
  | file
  deriving DecidableEq

/-- What an option's name means. -/
inductive Meaning where
  | switch (switch : Switch)
  | slot (slot : Slot)
  | halt (halt : Halt)
  deriving DecidableEq

/-- The meaning of a letter behind a dash. -/
def ofLetter? : Char → Option Meaning
  | 'x' => some (.switch .hex)
  | 'j' => some (.switch .json)
  | 'v' => some (.switch .verbose)
  | 'l' => some (.slot .query)
  | 'c' => some (.slot .file)
  | 'h' => some (.halt .help)
  | 'V' => some (.halt .version)
  | _ => none

/-- The meaning of a word behind two dashes. -/
def ofWord? : String → Option Meaning
  | "hex" => some (.switch .hex)
  | "history" => some (.switch .history)
  | "json" => some (.switch .json)
  | "verbose" => some (.switch .verbose)
  | "lookup" => some (.slot .query)
  | "config" => some (.slot .file)
  | "help" => some (.halt .help)
  | "version" => some (.halt .version)
  | _ => none

namespace Options

/-- The options of a run without arguments. -/
def default : Options :=
  ⟨[], [], false, false, false, false, none⟩

/-- Whether a switch is on. -/
def isOn (o : Options) : Switch → Bool
  | .hex => o.hex
  | .history => o.history
  | .json => o.json
  | .verbose => o.verbose

/-- Turns a switch on. -/
def turnOn (o : Options) : Switch → Options
  | .hex => { o with hex := true }
  | .history => { o with history := true }
  | .json => { o with json := true }
  | .verbose => { o with verbose := true }

/-- Turns a switch on for the first time. -/
def flip (o : Options) (switch : Switch) : Except Halt Options :=
  if o.isOn switch then .error (.misuse "an option cannot be used multiple times")
  else .ok (o.turnOn switch)

/-- Gives an option its value.  Only look-ups may be repeated. -/
def give (o : Options) (slot : Slot) (value : String) : Except Halt Options :=
  match slot, o.file with
  | .query, _ => .ok { o with queries := o.queries ++ [value] }
  | .file, none => .ok { o with file := some value }
  | .file, some _ => .error (.misuse "the argument '--config' cannot be used multiple times")

/-- Adds a name to convert. -/
def addName (o : Options) (name : String) : Options :=
  { o with names := o.names ++ [name] }

/-- Reads letters behind one dash.  Answers also which option still lacks its value. -/
def readLetters (o : Options) : List Char → Except Halt (Options × Option Slot)
  | [] => .ok (o, none)
  | c :: rest =>
    match ofLetter? c with
    | none => .error (.misuse ("unexpected argument '-" ++ String.ofList [c] ++ "' found"))
    | some (.halt halt) => .error halt
    | some (.switch switch) => do (← o.flip switch).readLetters rest
    | some (.slot slot) =>
      match rest with
      | [] => .ok (o, some slot)
      | '=' :: value => do return (← o.give slot (String.ofList value), none)
      | value => do return (← o.give slot (String.ofList value), none)

/-- Reads a word behind two dashes, with the text after an equals sign if there is one.  Answers
    also whether the option still lacks its value. -/
def readWord (o : Options) (word : String) (attached : Option String) :
    Except Halt (Options × Option Slot) :=
  match ofWord? word, attached with
  | none, _ => .error (.misuse ("unexpected argument '--" ++ word ++ "' found"))
  | some (.slot slot), some value => do return (← o.give slot value, none)
  | some (.slot slot), none => .ok (o, some slot)
  | some (.switch _), some _ | some (.halt _), some _ =>
    .error (.misuse ("unexpected value for '--" ++ word ++ "' found"))
  | some (.switch switch), none => do return (← o.flip switch, none)
  | some (.halt halt), none => .error halt

/-- The text after the first equals sign, if there is one. -/
def attached? (t : List Char) : Option String :=
  match t.dropWhile (· != '=') with
  | [] => none
  | _ :: value => some (String.ofList value)

/-- Reads arguments.  `lacking` is the option before them that lacks its value. -/
def readArguments (o : Options) (lacking : Option Slot) : List String → Except Halt Options
  | [] => if lacking.isSome then .error (.misuse "a value is required") else .ok o
  | arg :: rest =>
    match arg.toList, lacking with
    | '-' :: _ :: _, some _ => .error (.misuse "a value is required")
    | _, some slot => do (← o.give slot arg).readArguments none rest
    | ['-', '-'], none => .ok { o with names := o.names ++ rest }
    | '-' :: '-' :: body, none => do
      let word := String.ofList (body.takeWhile (· != '='))
      let (o, lacking) ← o.readWord word (attached? body)
      o.readArguments lacking rest
    | '-' :: c :: letters, none => do
      let (o, lacking) ← o.readLetters (c :: letters)
      o.readArguments lacking rest
    | _, none => (o.addName arg).readArguments none rest

/-- Reads the arguments of the program. -/
def read (args : List String) : Except Halt Options :=
  default.readArguments none args

end Options

end WifiNames.Program
