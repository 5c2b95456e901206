import WifiNames.Settings
import WifiNames.Yaml.Writer

namespace WifiNames.Settings

/-!
# Settings — writing them as YAML

* `write` — all settings as the text of a settings file.  Where settings were read from is not
  among them.
-/

/-- The word for a boolean. -/
def writeFlag (value : Bool) : Text :=
  if value then "true".toList else "false".toList

/-- A field of a section, with the end of its line. -/
def writeField (name : String) (value : Text) : Text :=
  "  ".toList ++ name.toList ++ ": ".toList ++ value

/-- A field that holds a boolean. -/
def writeFlagField (name : String) (value : Bool) : Text :=
  writeField name (writeFlag value ++ ['\n'])

/-- All settings as a text. -/
def write (s : Settings) : Text :=
  "converter:\n".toList
    ++ writeField "charset" (Yaml.writeText s.charset.toList)
    ++ writeField "max_output_len" ((toString s.capacity.toNat).toList ++ ['\n'])
    ++ "output:\n".toList
    ++ writeFlagField "enable_colors" s.colours
    ++ writeFlagField "json" s.json
    ++ "global:\n".toList
    ++ writeFlagField "verbose" s.verbose
    ++ writeFlagField "debug_history" s.dumpsHistory

end WifiNames.Settings
