import WifiNames.Error
import WifiNames.Files.Path
import WifiNames.Settings.Environment

namespace WifiNames

/-!
# Location — where settings are kept

* `Environment.settingsDirectory`, `Environment.settingsFile` — the place of the settings file, if there
  is one.
* `Environment.expandHome` — a path with the home directory in place of a leading `~`.

There is no place for the settings if no variable gives one and the user has no home directory.
-/

/-- The settings file in its directory. -/
def Settings.fileIn (dir : String) : String :=
  Path.join dir "config.yaml"

namespace Environment

/-- The directory that holds the settings directories of all programs, if there is one. -/
def sharedDirectory? (env : Environment) : Option String :=
  (env.sharedConfigHome.filter Path.isAbsolute).or (env.userHome.map (Path.join · ".config"))

/-- The directory of the settings file. -/
def settingsDirectory (env : Environment) : Except Error String :=
  match env.configHome, env.appHome, env.sharedDirectory? with
  | some dir, _, _ => .ok dir
  | none, some dir, _ => .ok dir
  | none, none, some dir => .ok (Path.join dir "ssid-gbk")
  | none, none, none => .error (.config "Unable to determine config directory")

/-- The settings file. -/
def settingsFile (env : Environment) : Except Error String :=
  env.settingsDirectory.map Settings.fileIn

/-- A path with the home directory, if there is one, in place of a leading `~`. -/
def expandHome (env : Environment) (p : String) : String :=
  match p.toList, env.userHome with
  | '~' :: '/' :: rest, some home => Path.join home (String.ofList rest)
  | _, _ => p

end Environment

end WifiNames
