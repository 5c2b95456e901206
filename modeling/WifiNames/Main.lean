import WifiNames.Program

/-!
# Main — the program on a terminal

* `Main.files` — the files of the system.
* `Main.accountHome` — the home directory of the user, as the system knows it.
* `Main.converse` — a dialogue, answered line by line.
* `main` — one run.
-/

namespace WifiNames.Main

/-- The fault that a code of the system stands for.  Some operations negate their codes. -/
def faultOfCode (code : UInt32) (details : String) : Fault :=
  let code := if code < 0x80000000 then code else 0 - code
  if code = 13 then .permissionDenied
  else if code = 20 then .notDirectory
  else if code = 21 then .isDirectory
  else if code = 36 then .nameTooLong
  else .other (details ++ " (os error " ++ toString code ++ ")")

/-- Why an operation of the system failed. -/
def fault : IO.Error → Fault
  | .noFileOrDirectory .. => .notFound
  | .alreadyExists .. => .alreadyExists
  | .permissionDenied _ code details => faultOfCode code details
  | .inappropriateType _ code details => faultOfCode code details
  | .invalidArgument _ code details => faultOfCode code details
  | e => .other (toString e)

/-- The outcome of an operation of the system. -/
def attempt {α : Type} (action : IO α) : IO (Except Fault α) :=
  try
    return .ok (← action)
  catch e =>
    return .error (fault e)

/-- Whether a file or a directory can be opened, or could be with more rights. -/
def occupied (path : String) : IO Bool := do
  match ← attempt (IO.FS.Handle.mk path .read) with
  | .ok _ | .error .permissionDenied | .error .isDirectory => return true
  | .error _ => return false

/-- The text of a file. -/
def readText (path : String) : IO (Except Fault Text) := do
  match ← attempt (do (← IO.FS.Handle.mk path .read).readBinToEnd) with
  | .error fault => return .error fault
  | .ok content =>
    match Utf8.decode? content.toList with
    | some text => return .ok text
    | none => return .error .notText

/-- Creates one directory unless there is one. -/
def createDirectory (path : String) : IO (Except Fault Unit) := do
  match ← attempt (IO.FS.createDir path) with
  | .error .alreadyExists =>
    return if ← occupied (Path.join path ".") then .ok () else .error .alreadyExists
  | outcome => return outcome

/-- Creates one directory.  If there is no way to it, `above` makes one first. -/
def createBelow (path : String) (above : IO (Except Fault Unit)) : IO (Except Fault Unit) := do
  match ← createDirectory path with
  | .error .notFound =>
    match ← above with
    | .ok () => createDirectory path
    | failed => return failed
  | outcome => return outcome

/-- Creates a directory and those above it, as far as they are missing.  The steps to it from
    `start` are given from the last one to the first. -/
def createFrom (start : String) : List String → IO (Except Fault Unit)
  | [] => return .ok ()
  | step :: above =>
    createBelow (start ++ "/".intercalate (step :: above).reverse) (createFrom start above)

/-- Creates the directory at a path and those above it, as far as they are missing.  The empty path
    stands for the working directory, which is there. -/
def createDirectories (path : String) : IO (Except Fault Unit) :=
  if path.isEmpty then
    return .ok ()
  else
    let start := if Path.isAbsolute path then "/" else ""
    createBelow path (createFrom start ((Path.steps path).filter (· != ".")).dropLast.reverse)

/-- The files of the system. -/
def files : Files IO where
  occupied := occupied
  createDirectories := createDirectories
  read := readText
  write path text := attempt (IO.FS.writeFile path (String.ofList text))

/-- The fields of the lines of a text that tells about the system. -/
def table (separator : String) (t : Text) : List (List String) :=
  (Text.lines t).map fun line => (String.ofList line).splitOn separator

/-- The number of the account that a process runs for, as its status tells it. -/
def account? (status : Text) : Option String :=
  (table "\t" status).findSome? fun
    | "Uid:" :: account :: _ => some account
    | _ => none

/-- The home directory of an account, if it has one. -/
def homeOf? (accounts : Text) (account : String) : Option String := do
  let fields ← (table ":" accounts).find? (·[2]? == some account)
  let home ← fields[5]?
  if home.isEmpty then none else some home

/-- The home directory of the account that the program runs for. -/
def accountHome : IO (Option String) := do
  match ← readText "/proc/self/status", ← readText "/etc/passwd" with
  | .ok status, .ok accounts => return (account? status).bind (homeOf? accounts)
  | _, _ => return none

/-- Prints a transcript. -/
def print (t : Transcript) : IO Unit := do
  let out ← IO.getStdout
  out.putStr (String.ofList t.out)
  out.flush
  (← IO.getStderr).putStr (String.ofList t.err)

/-- Prints notes: warnings always, and all others if they are asked for. -/
def printNotes (verbose : Bool) (notes : List Note) : IO Unit := do
  let err ← IO.getStderr
  for n in notes do
    if verbose || n.level = .warn then
      err.putStrLn n.line

/-- The value of an operation whose notes are printed. -/
def noted {α : Type} (verbose : Bool) (x : Noted α) : IO α := do
  printNotes verbose x.notes
  return x.value

/-- Reads a stream to its end. -/
partial def readAll (stream : IO.FS.Stream) (read : ByteArray) : IO ByteArray := do
  let chunk ← stream.read 65536
  if chunk.isEmpty then
    return read
  else
    readAll stream (read ++ chunk)

/-- Answers typed lines until the user quits or the input ends. -/
partial def converse (stream : IO.FS.Stream) (verbose : Bool) (manner : Manner) (r : Registry) :
    IO Registry := do
  let line ← stream.getLine
  if line.isEmpty then
    return r
  match ← noted verbose (Dialogue.turn manner r (.ofLine line.toList)) with
  | (none, r) => return r
  | (some printed, r) =>
    print printed
    converse stream verbose manner r

/-- Prints the outcome of a run. -/
def conclude (outcome : Program.Outcome) : IO UInt32 := do
  print outcome.transcript
  return outcome.exitCode.toUInt32

/-- A run whose input is typed. -/
def dialogue (stream : IO.FS.Stream) (o : Program.Options) (manner : Manner) (s : Settings) :
    IO UInt32 := do
  let r ← noted o.verbose s.registry.start
  print ⟨Dialogue.greeting, []⟩
  let r ← converse stream o.verbose manner r
  let (printed, failure) ← noted o.verbose (Program.finish o manner r)
  conclude (Program.outcome printed failure)

/-- A run with the given options. -/
def run (o : Program.Options) : IO UInt32 := do
  let env ← Environment.fetch (fun name => (IO.getEnv name : IO (Option String))) accountHome
  let (s, warning) ← Program.settings files env o
  let stream ← IO.getStdin
  if !o.commands.isEmpty then
    conclude (← noted o.verbose (Program.runWith o env s warning ⟨[], false⟩))
  else if ← stream.isTty then
    print ⟨[], warning⟩
    dialogue stream o (o.manner s) s
  else
    let content ← readAll stream .empty
    conclude (← noted o.verbose (Program.runWith o env s warning ⟨content.toList, false⟩))

end WifiNames.Main

/-- Runs the program. -/
def main (args : List String) : IO UInt32 :=
  match WifiNames.Program.Options.read args with
  | .error halt => WifiNames.Main.conclude halt.outcome
  | .ok o => WifiNames.Main.run o
