import WifiNames.Text.Hidden

namespace WifiNames.Path

/-!
# Paths — steps through directories

Paths are texts with `/` between their parts.  They are joined as they are and never tidied up.

* `join` — a path below another one.
* `steps`, `parts` — the steps from one directory to the next that a path describes.
* `asksForDirectory` — whether a path can only lead to a directory.
* `quote` — a path in quotes, for messages.
-/

/-- Whether a path starts from the root. -/
def isAbsolute (p : String) : Bool :=
  p.toList.head? == some '/'

/-- Whether a path ends with a slash, so that it can only lead to a directory. -/
def asksForDirectory (p : String) : Bool :=
  p.toList.getLast? == some '/'

/-- The path `p` below `base`.  An absolute path stays as it is. -/
def join (base p : String) : String :=
  if isAbsolute p then p
  else if base.isEmpty || asksForDirectory base then base ++ p
  else base ++ "/" ++ p

/-- The texts between the slashes of a path. -/
def between : Text → List Text
  | [] => [[]]
  | c :: rest =>
    match between rest with
    | [] => [[c]]
    | part :: more => if c = '/' then [] :: part :: more else (c :: part) :: more

/-- The steps that a path names. -/
def steps (p : String) : List String :=
  ((between p.toList).filter (!·.isEmpty)).map String.ofList

/-- The steps of a path to something that is there.  A slash at the end asks for a directory, as
    the step `.` does. -/
def parts (p : String) : List String :=
  if asksForDirectory p then steps p ++ ["."] else steps p

/-- A character of a path in quotes. -/
def escape (c : Char) : Text :=
  match c with
  | '"' => "\\\"".toList
  | '\\' => "\\\\".toList
  | '\x00' => "\\0".toList
  | '\t' => "\\t".toList
  | '\n' => "\\n".toList
  | '\r' => "\\r".toList
  | c =>
    if Text.isHidden c then
      "\\u\x7b".toList ++ Nat.toDigits 16 c.toNat ++ "\x7d".toList
    else
      [c]

/-- A path in quotes. -/
def quote (p : String) : String :=
  "\"" ++ String.ofList (p.toList.flatMap escape) ++ "\""

end WifiNames.Path
