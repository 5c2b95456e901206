import WifiNames.Files.Path
import WifiNames.Files
import WifiNames.Settings.Location
import WifiNames.Settings.Reader
import WifiNames.Settings.Writer

namespace WifiNames

/-!
# Settings — keeping them in files

* `Files.ensureDirectory` — creates a directory unless there is something in its place.
* `Settings.loadFrom`, `Settings.save` — settings from a file and to a file.
* `Settings.loadIn`, `Settings.load` — settings from the settings file, which is written first if it is
  missing.

The environment has the last word: its values replace those of a file.
-/

variable {m : Type → Type} [Monad m]

/-- Creates a directory unless there is something in its place. -/
def Files.ensureDirectory (files : Files m) (path : String) : m (Except Error Unit) := do
  if ← files.occupied path then
    return .ok ()
  else
    match ← files.createDirectories path with
    | .ok () => return .ok ()
    | .error fault =>
      return .error (.config ("Failed to create directory " ++ Path.quote path ++ ": "
        ++ fault.message))

namespace Settings

/-- Settings from the text of the file at a path. -/
def ofFile (env : Environment) (path : String) (t : Text) : Except Error Settings := do
  let settings := override env { ← parse (default env) t with source := some path }
  settings.validate
  return settings

/-- Settings from the file at a path. -/
def loadFrom (files : Files m) (env : Environment) (path : String) :
    m (Except Error Settings) := do
  match ← files.read path with
  | .ok t => return ofFile env path t
  | .error fault => return .error (.config ("Failed to read config file: " ++ fault.message))

/-- Writes settings to the file at a path. -/
def save (files : Files m) (s : Settings) (path : String) : m (Except Error Unit) := do
  match ← files.write path s.write with
  | .ok () => return .ok ()
  | .error fault => return .error (.config ("Failed to write config file: " ++ fault.message))

/-- Writes the settings that hold by default to the file at a path. -/
def create (files : Files m) (env : Environment) (path : String) : m (Except Error Settings) := do
  let settings := default env
  match settings.validate with
  | .error e => return .error e
  | .ok () =>
    match ← settings.save files path with
    | .error e => return .error e
    | .ok () => return .ok settings

/-- Settings from the settings file in a directory.  The file is created with the default settings
    if it is missing. -/
def loadIn (files : Files m) (env : Environment) (dir : String) : m (Except Error Settings) := do
  match ← files.ensureDirectory dir with
  | .error e => return .error e
  | .ok () =>
    if ← files.occupied (fileIn dir) then
      loadFrom files env (fileIn dir)
    else
      create files env (fileIn dir)

/-- Settings from the settings file. -/
def load (files : Files m) (env : Environment) : m (Except Error Settings) :=
  match env.settingsDirectory with
  | .error e => return .error e
  | .ok dir => loadIn files env dir

end Settings

end WifiNames
