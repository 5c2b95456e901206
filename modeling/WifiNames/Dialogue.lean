import WifiNames.Command
import WifiNames.Files
import WifiNames.Text.Lines

namespace WifiNames

/-!
# Dialogues — commands typed line by line

* `Transcript` — what is printed, on either of two streams.
* `Dialogue.turn` — answers one command.
* `Dialogue.run` — answers lines until the user quits or a line is not text.

A command that fails is reported, and the dialogue goes on.
-/

/-- What is printed: the answers, and the messages about failures. -/
structure Transcript where
  out : Text
  err : Text
  deriving DecidableEq

namespace Transcript

/-- Nothing is printed. -/
def empty : Transcript :=
  ⟨[], []⟩

/-- One transcript after the other. -/
def append (a b : Transcript) : Transcript :=
  ⟨a.out ++ b.out, a.err ++ b.err⟩

instance : Append Transcript := ⟨append⟩

/-- The transcript of a command. -/
def ofOutcome : Except Error Text → Transcript
  | .ok printed => ⟨printed, []⟩
  | .error e => ⟨[], "Error: ".toList ++ e.message.toList ++ ['\n']⟩

end Transcript

/-- The failure to read something that is not text. -/
def Error.notText : Error :=
  .io Fault.notText.message

namespace Dialogue

/-- The line that opens a dialogue. -/
def greeting : Text :=
  "ssid-gbk interactive mode (type help for commands, quit or Ctrl+D to exit)\n".toList

/-- Answers one command; `none` ends the dialogue. -/
def turn (manner : Manner) (r : Registry) (command : Command) :
    Noted (Option Transcript × Registry) :=
  if command = .quit then
    pure (none, r)
  else do
    let (outcome, r) ← command.perform manner r
    return (some (.ofOutcome outcome), r)

/-- Answers lines.  Answers what is printed, the failure if a line is not text, and the
    registry. -/
def run (manner : Manner) (r : Registry) :
    List Bytes → Noted (Transcript × Option Error × Registry)
  | [] => pure (.empty, none, r)
  | line :: rest =>
    match Utf8.decode? line with
    | none => pure (.empty, some .notText, r)
    | some line => do
      match ← turn manner r (.ofLine line) with
      | (none, r) => return (.empty, none, r)
      | (some printed, r) =>
        let (more, failure, r) ← run manner r rest
        return (printed ++ more, failure, r)

end Dialogue

end WifiNames
