import WifiNames.Files
import WifiNames.Files.Path
import WifiNames.Text.Utf8

namespace WifiNames

/-!
# File trees — a directory tree held in memory

* `FileNode` — a file, or a directory with what it holds.
* `FileTree` — a tree of them, with the directory where relative paths start.
* `FileTree.find` — follows a path.
* `FileTree.readBytes`, `FileTree.writeBytes`, `FileTree.createDirectories` — the operations.
* `FileTree.files` — the operations as a `Files` value.
-/

/-- A file, or a directory with the names of what it holds. -/
inductive FileNode where
  | file (content : Bytes)
  | directory (entries : List (String × FileNode))

/-- A way down through a tree, the last step first: each name with what the directory that it was
    looked up in holds. -/
abbrev Trail := List (String × List (String × FileNode))

/-- Where a path leads. -/
inductive Spot where
  /-- To something, and how it was reached. -/
  | taken (trail : Trail) (node : FileNode)
  /-- To a free place, which the last step names, in a directory. -/
  | free (trail : Trail)

namespace FileNode

/-- The longest name of a file or a directory, in bytes. -/
def nameLimit : Nat := 255

/-- The tree that holds `node` where a trail ends, and is unchanged besides. -/
def graft (node : FileNode) (trail : Trail) : FileNode :=
  trail.foldl
    (fun node (name, entries) => .directory ((name, node) :: entries.filter (·.1 != name))) node

/-- Follows the steps of a path.  `trail` has led to where they start. -/
def walk (trail : Trail) (node : FileNode) : List String → Except Fault Spot
  | [] => .ok (.taken trail node)
  | step :: rest =>
    match node with
    | .file _ => .error .notDirectory
    | .directory entries =>
      if step = "." then
        walk trail node rest
      else if step = ".." then
        match trail with
        | [] => walk [] node rest
        | (_, above) :: trail => walk trail (.directory above) rest
      else if nameLimit < step.utf8ByteSize then
        .error .nameTooLong
      else
        match entries.lookup step with
        | some node => walk ((step, entries) :: trail) node rest
        | none => if rest.isEmpty then .ok (.free ((step, entries) :: trail)) else .error .notFound

end FileNode

/-- A directory tree. -/
structure FileTree where
  root : FileNode
  /-- The names on the way to where relative paths start. -/
  workingDirectory : List String

namespace FileTree

/-- The tree that holds `node` where a trail ends. -/
def put (t : FileTree) (trail : Trail) (node : FileNode) : FileTree :=
  { t with root := node.graft trail }

/-! ### Following paths -/

/-- The longest path, in bytes. -/
def pathLimit : Nat := 4095

/-- What is wrong with a path, whatever the tree holds. -/
def pathFault? (path : String) : Option Fault :=
  if path.toList.contains '\x00' then some .nulInPath
  else if pathLimit < path.utf8ByteSize then some .nameTooLong
  else none

/-- The steps from the root to where a path starts. -/
def origin (t : FileTree) (path : String) : List String :=
  if Path.isAbsolute path then [] else t.workingDirectory

/-- Follows steps from the root. -/
def walk (t : FileTree) (steps : List String) : Except Fault Spot :=
  t.root.walk [] steps

/-- Follows a path. -/
def find (t : FileTree) (path : String) : Except Fault Spot :=
  match pathFault? path with
  | some fault => .error fault
  | none =>
    if path.isEmpty then .error .notFound else t.walk (t.origin path ++ Path.parts path)

/-- Follows a path to a file that may have to be created.  If the path asks for a directory, it is
    not followed to its end. -/
def findFile (t : FileTree) (path : String) : Except Fault Spot :=
  if (pathFault? path).isNone && Path.asksForDirectory path then
    match t.walk (t.origin path ++ (Path.steps path).dropLast ++ ["."]) with
    | .ok _ => .error .isDirectory
    | .error fault => .error fault
  else
    t.find path

/-- Whether a path leads to something. -/
def occupied (t : FileTree) (path : String) : Bool :=
  match t.find path with
  | .ok (.taken ..) => true
  | _ => false

/-- Whether a path leads to a directory. -/
def isDirectory (t : FileTree) (path : String) : Bool :=
  match t.find path with
  | .ok (.taken _ (.directory _)) => true
  | _ => false

/-! ### Files -/

/-- The content of a file. -/
def readBytes (t : FileTree) (path : String) : Except Fault Bytes :=
  match t.find path with
  | .ok (.taken _ (.file content)) => .ok content
  | .ok (.taken _ (.directory _)) => .error .isDirectory
  | .ok (.free _) => .error .notFound
  | .error fault => .error fault

/-- Gives a file a new content, creating it if it is missing.  Nothing is written where only a
    directory can be. -/
def writeBytes (t : FileTree) (path : String) (content : Bytes) : Except Fault FileTree :=
  match t.findFile path with
  | .ok (.taken _ (.directory _)) => .error .isDirectory
  | .ok (.taken trail _) | .ok (.free trail) => .ok (t.put trail (.file content))
  | .error fault => .error fault

/-- The text of a file. -/
def readText (t : FileTree) (path : String) : Except Fault Text :=
  match t.readBytes path with
  | .ok content =>
    match Utf8.decode? content with
    | some text => .ok text
    | none => .error .notText
  | .error fault => .error fault

/-! ### Directories -/

/-- An outcome with the tree as it is afterwards: the new one, or the old one after a failure. -/
def settle (t : FileTree) : Except Fault FileTree → Except Fault Unit × FileTree
  | .ok t => (.ok (), t)
  | .error fault => (.error fault, t)

/-- Creates one directory where steps from the root lead, unless there is one.  The step `.` at
    the end leads nowhere new. -/
def createDirectory (t : FileTree) (steps : List String) : Except Fault FileTree :=
  match t.walk steps with
  | .ok (.free trail) => .ok (t.put trail (.directory []))
  | .ok (.taken _ (.directory _)) => .ok t
  | .ok (.taken _ (.file _)) => .error .alreadyExists
  | .error fault => .error fault

/-- Creates one directory.  If there is no way to it, `above` makes one first. -/
def createBelow (t : FileTree) (steps : List String)
    (above : FileTree → Except Fault Unit × FileTree) : Except Fault Unit × FileTree :=
  match t.createDirectory steps with
  | .error .notFound =>
    match above t with
    | (.ok (), t) => t.settle (t.createDirectory steps)
    | failed => failed
  | outcome => t.settle outcome

/-- Creates a directory and those above it, as far as they are missing.  The steps to it from
    where the path starts are given from the last one to the first. -/
def createFrom (start : List String) : List String → FileTree → Except Fault Unit × FileTree
  | [], t => (.ok (), t)
  | step :: above, t =>
    t.createBelow (start ++ (step :: above).reverse) (createFrom start above)

/-- Creates the directory at a path and those above it, as far as they are missing.  What has
    been created above it stays even if the directory itself cannot be created. -/
def createDirectories (t : FileTree) (path : String) : Except Fault Unit × FileTree :=
  match pathFault? path with
  | some fault => (.error fault, t)
  | none =>
    let names := (Path.steps path).filter (· != ".")
    t.createBelow (t.origin path ++ Path.steps path)
      (createFrom (t.origin path) names.dropLast.reverse)

/-- The operations on files, carried out on a tree. -/
def files : Files (StateM FileTree) where
  occupied path := fun t => (t.occupied path, t)
  createDirectories path := fun t => t.createDirectories path
  read path := fun t => (t.readText path, t)
  write path text := fun t => t.settle (t.writeBytes path (Utf8.encode text))

end FileTree

end WifiNames
