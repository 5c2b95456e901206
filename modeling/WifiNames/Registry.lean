import WifiNames.Converter
import WifiNames.History

namespace WifiNames

/-!
# Registries — conversion and history together

A registry owns a transcoder and, during a session, a history.  Names are converted, remembered
and looked up through it.

* `Registry.start`, `Registry.stop` — the bounds of a session.
* `Registry.convert`, `Registry.record`, `Registry.lookup` — the three basic services.
* `Registry.displayName`, `Registry.driverName` — the same with a fallback to the name as given.

Each operation answers together with the registry as it is afterwards, unless it cannot change it.
-/

/-- A transcoder with a history of its conversions. -/
structure Registry where
  transcoder : Transcoder
  /-- Whether the whole history is noted after every conversion. -/
  dumps : Bool
  /-- What is remembered; `none` outside of a session. -/
  history : Option History

namespace Registry

/-- A registry outside of a session. -/
def ofTranscoder (transcoder : Transcoder) (dumps : Bool) : Registry :=
  ⟨transcoder, dumps, none⟩

/-- The registry with another history. -/
def withHistory (r : Registry) (history : Option History) : Registry :=
  { r with history := history }

/-- Starts a session.  Within a session nothing happens. -/
def start (r : Registry) : Noted Registry :=
  match r.history with
  | some _ => pure r
  | none => do
    Noted.info ("SSID history initialized (charset: " ++ r.transcoder.charset ++ ")")
    return r.withHistory (some .empty)

/-- Ends the session and forgets everything. -/
def stop (r : Registry) : Noted Registry :=
  match r.history with
  | none => pure r
  | some history => do
    Noted.info ("SSID history released (" ++ toString history.size ++ " entries)")
    return r.withHistory none

/-- Whether a session is open. -/
def isStarted (r : Registry) : Bool :=
  r.history.isSome

/-- How many conversions are remembered. -/
def size (r : Registry) : Nat :=
  match r.history with
  | some history => history.size
  | none => 0

/-- Whether nothing is remembered. -/
def isEmpty (r : Registry) : Bool :=
  r.size == 0

/-- The remembered conversions, oldest first. -/
def entries (r : Registry) : Except Error (List Entry) :=
  match r.history with
  | some history => .ok history.entries
  | none => .error .notInitialized

/-- Notes every remembered conversion. -/
def dump (r : Registry) : Noted Unit :=
  match r.history with
  | some history => history.dump
  | none => pure ()

/-- Remembers a pair that the caller already has. -/
def record (r : Registry) (raw converted : Bytes) : Noted (Except Error Unit × Registry) :=
  match r.history with
  | none => pure (.error .notInitialized, r)
  | some history => do
    let (isNew, history) ← history.insert raw converted
    if !isNew then
      Noted.debug "SSID already in history, keeping first conversion"
    return (.ok (), r.withHistory (some history))

/-- Converts a name and remembers the pair. -/
def convert (r : Registry) (raw : Bytes) : Noted (Except Error Bytes × Registry) := do
  match ← r.transcoder.toUtf8 raw with
  | .error e => return (.error (.conversion e), r)
  | .ok converted =>
    match ← r.record raw converted with
    | (.error e, r) => return (.error e, r)
    | (.ok (), r) =>
      if r.dumps then
        r.dump
      return (.ok converted, r)

/-- Maps either form of a remembered name to the other. -/
def lookup (r : Registry) (query : Bytes) : Noted (Except Error Bytes) :=
  match r.history with
  | none => do
    Noted.info "SSID lookup failed: history is not initialized"
    return .error .notInitialized
  | some history =>
    match history.lookup? query with
    | some found => pure (.ok found)
    | none => pure (.error .notFound)

/-- The bytes to show for a raw name. -/
def displayName (r : Registry) (raw : Bytes) : Noted (Bytes × Registry) :=
  if isGbkName raw then do
    match ← r.convert raw with
    | (.ok converted, r) => return (converted, r)
    | (.error e, r) =>
      Noted.warn ("Using raw SSID bytes for display: " ++ e.message)
      return (raw, r)
  else
    pure (raw, r)

/-- The bytes to hand to the driver for a name that a user has chosen. -/
def driverName (r : Registry) (chosen : Bytes) : Noted Bytes := do
  match ← r.lookup chosen with
  | .ok raw => return if isGbkName chosen then chosen else raw
  | .error e =>
    if !e.isNotFound then
      Noted.warn ("Using SSID bytes as given: " ++ e.message)
    return chosen

end Registry

end WifiNames
