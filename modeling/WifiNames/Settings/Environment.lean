import WifiNames.Text.Decimal

namespace WifiNames

/-!
# Environment — the variables that matter

* `Environment` — the values of the variables, `none` where one is not set.
* `Environment.fetch` — asks for each variable by its name.
* `Environment.capacity?`, `Environment.dumps?`, `Environment.forcesColour` — what values mean.
-/

/-- The environment variables that the program looks at. -/
structure Environment where
  /-- The label of the charset. -/
  charset : Option String
  /-- The capacity of the converter, as written. -/
  capacity : Option String
  /-- Whether the history is noted after every conversion, as written. -/
  debug : Option String
  /-- The directory of the settings file. -/
  configHome : Option String
  /-- The directory of the settings file, if `configHome` is not set. -/
  appHome : Option String
  /-- The directory that holds the settings directories of all programs. -/
  sharedConfigHome : Option String
  /-- The home directory of the user, if there is one. -/
  userHome : Option String
  /-- Whether output is coloured even if it does not go to a terminal, as written. -/
  forceColour : Option String

namespace Environment

/-- Asks for the variables one by one.  Without a home directory among them it is that of the
    account, if that has one. -/
def fetch {m : Type → Type} [Monad m] (get : String → m (Option String))
    (accountHome : m (Option String)) : m Environment := do
  return {
    charset := ← get "SSID_GBK_CHARSET"
    capacity := ← get "SSID_GBK_MAX_OUTPUT"
    debug := ← get "SSID_GBK_DEBUG"
    configHome := ← get "SSID_GBK_CONFIG_HOME"
    appHome := ← get "SSID_GBK_HOME"
    sharedConfigHome := ← get "XDG_CONFIG_HOME"
    userHome := ((← get "HOME").filter (!·.isEmpty)).or (← accountHome)
    forceColour := ← get "CLICOLOR_FORCE" }

/-- The capacity, if the variable holds a number. -/
def capacity? (env : Environment) : Option UInt64 :=
  env.capacity.bind fun value => Decimal.word? value.toList

/-- Whether a value is a word for "yes". -/
def isYes (value : String) : Bool :=
  let word := value.toList.map Char.toLower
  ["1", "true", "yes", "on"].any (·.toList == word)

/-- Whether the history is noted after every conversion, if the variable is set.  Any value but
    the words for "yes" means no. -/
def dumps? (env : Environment) : Option Bool :=
  env.debug.map isYes

/-- Whether output that does not go to a terminal is coloured. -/
def forcesColour (env : Environment) : Bool :=
  match env.forceColour with
  | some value => value != "0"
  | none => false

end Environment

end WifiNames
