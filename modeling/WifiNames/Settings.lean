import WifiNames.Converter
import WifiNames.Registry
import WifiNames.Settings.Environment
import WifiNames.Text.Blank

namespace WifiNames

/-!
# Settings — what can be adjusted

* `Settings` — all adjustable values.
* `Settings.default` — the values that hold where nothing else is said.
* `Settings.override` — settings with the environment's values in place of their own.
* `Settings.validate` — refuses what the converter cannot work with.
-/

/-- All adjustable values. -/
structure Settings where
  /-- The label of the charset that names are read in. -/
  charset : String
  /-- How many bytes of a converted name are kept. -/
  capacity : UInt64
  /-- Whether converted names are shown in green. -/
  colours : Bool
  /-- Whether reports are written as JSON. -/
  json : Bool
  /-- Whether diagnostics are shown. -/
  verbose : Bool
  /-- Whether the whole history is noted after every conversion. -/
  dumpsHistory : Bool
  /-- The file that the settings were read from. -/
  source : Option String
  deriving DecidableEq

namespace Settings

/-- The settings that hold where neither a file nor the environment says otherwise. -/
def base : Settings where
  charset := "gbk"
  capacity := 512
  colours := true
  json := false
  verbose := false
  dumpsHistory := false
  source := none

/-- Settings with the values that the environment gives in place of their own. -/
def override (env : Environment) (s : Settings) : Settings :=
  { s with
    charset := env.charset.getD s.charset
    capacity := env.capacity?.getD s.capacity
    dumpsHistory := env.dumps?.getD s.dumpsHistory }

/-- The settings that hold where no file says otherwise. -/
def default (env : Environment) : Settings :=
  base.override env

/-- Refuses settings that the converter cannot work with. -/
def validate (s : Settings) : Except Error Unit :=
  if (Text.trim s.charset.toList).isEmpty then
    .error (.config "converter.charset must not be empty")
  else if s.capacity = 0 then
    .error (.config "converter.max_output_len must be greater than 0")
  else
    .ok ()

/-- The converter that settings describe. -/
def converter (s : Settings) : Converter :=
  ⟨s.charset, s.capacity.toNat⟩

/-- The registry that settings describe, outside of a session. -/
def registry (s : Settings) : Registry :=
  .ofTranscoder s.converter.transcoder s.dumpsHistory

end Settings

end WifiNames
