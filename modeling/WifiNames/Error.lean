namespace WifiNames

/-!
# Errors — everything that can go wrong

* `ConversionError` — why a name could not be converted.
* `Error` — every failure of the library.
* `ConversionError.message`, `Error.message` — the wording.
-/

/-- Why a name could not be converted to UTF-8. -/
inductive ConversionError where
  /-- No charset goes by the configured label. -/
  | unavailable (charset : String)
  /-- The charset rejects the bytes. -/
  | invalidInput (charset : String) (length : Nat)
  deriving DecidableEq

/-- The wording of a conversion error. -/
def ConversionError.message : ConversionError → String
  | unavailable charset => "Charset converter unavailable for code page: " ++ charset
  | invalidInput charset length =>
    "Invalid input for code page " ++ charset ++ ": " ++ toString length ++ " bytes rejected"

/-- A failure. -/
inductive Error where
  /-- A name could not be converted. -/
  | conversion (cause : ConversionError)
  /-- The history was used outside of a session. -/
  | notInitialized
  /-- The history has no counterpart of a name. -/
  | notFound
  /-- The history could not be locked. -/
  | lockPoisoned (reason : String)
  /-- An argument does not spell a name. -/
  | parse (reason : String)
  /-- The settings cannot be used. -/
  | config (reason : String)
  /-- A stream could not be read. -/
  | io (reason : String)
  /-- A settings file is not the YAML it should be. -/
  | yaml (reason : String)
  /-- A report could not be written as JSON. -/
  | json (reason : String)
  deriving DecidableEq

namespace Error

/-- The wording of an error. -/
def message : Error → String
  | conversion cause => cause.message
  | notInitialized => "SSID cache is not initialized"
  | notFound => "SSID not found in history"
  | lockPoisoned reason => "Lock poisoned: " ++ reason
  | parse reason => "Parse error: " ++ reason
  | config reason => "Configuration error: " ++ reason
  | io reason => "File I/O error: " ++ reason
  | yaml reason => "YAML parse error: " ++ reason
  | json reason => "JSON parse error: " ++ reason

/-- Whether a look-up merely found nothing. -/
def isNotFound : Error → Bool
  | notFound => true
  | _ => false

/-- Whether the history was used outside of a session. -/
def isNotInitialized : Error → Bool
  | notInitialized => true
  | _ => false

/-- What lies beneath an error, innermost last. -/
def causes : Error → List String
  | io reason => [reason]
  | _ => []

end Error

end WifiNames
