import WifiNames.Basic

namespace WifiNames

/-!
# Files — what settings need of a file system

* `Fault` — why an operation on files failed, and its wording.
* `Files m` — the operations, in a monad `m` that carries them out.
-/

/-- Why an operation on files failed. -/
inductive Fault where
  | notFound
  | notDirectory
  | isDirectory
  | alreadyExists
  | permissionDenied
  /-- A path, or a name in it, has more bytes than a file system takes. -/
  | nameTooLong
  | nulInPath
  /-- The content of a file is not text. -/
  | notText
  | other (reason : String)
  deriving DecidableEq

/-- The wording of a fault. -/
def Fault.message : Fault → String
  | notFound => "No such file or directory (os error 2)"
  | notDirectory => "Not a directory (os error 20)"
  | isDirectory => "Is a directory (os error 21)"
  | alreadyExists => "File exists (os error 17)"
  | permissionDenied => "Permission denied (os error 13)"
  | nameTooLong => "File name too long (os error 36)"
  | nulInPath => "file name contained an unexpected NUL byte"
  | notText => "stream did not contain valid UTF-8"
  | other reason => reason

/-- The operations on files that settings need. -/
structure Files (m : Type → Type) where
  /-- Whether there is a file or a directory at a path. -/
  occupied : String → m Bool
  /-- Creates a directory and those above it, as far as they are missing. -/
  createDirectories : String → m (Except Fault Unit)
  /-- The text of a file. -/
  read : String → m (Except Fault Text)
  /-- Gives a file a new text, creating it if it is missing. -/
  write : String → Text → m (Except Fault Unit)

end WifiNames
