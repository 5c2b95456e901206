import WifiNames.Json
import WifiNames.Registry

namespace WifiNames

/-!
# Reports — answers as they are printed

* `NameReport` — what became of a name that was to be converted.
* `LookupReport` — what a look-up found.
* `Entry.line`, `Entry.json` — a remembered conversion.
* `Registry.report`, `Registry.lookupReport` — the services of a registry with their reports.

A report is printed as one line of text or as a JSON value.
-/

/-- What became of a name that was to be converted. -/
structure NameReport where
  /-- The name as it was typed. -/
  input : Text
  raw : Bytes
  /-- What the conversion answered; `none` for a name that is not a GBK name. -/
  outcome : Option (Except Error Bytes)

/-- What a look-up found. -/
structure LookupReport where
  /-- The name as it was typed. -/
  query : Text
  outcome : Except Error Bytes

/-! ### Conversions -/

namespace NameReport

/-- The converted name, if there is one. -/
def rendering (report : NameReport) : Option Text :=
  match report.outcome with
  | some (.ok converted) => some (Utf8.lossy converted)
  | _ => none

/-- Why there is no converted name although the name is a GBK name. -/
def problem (report : NameReport) : Option Text :=
  match report.outcome with
  | some (.error e) => some e.message.toList
  | _ => none

/-- The report on one line. -/
def line (report : NameReport) : Text :=
  report.input ++ " -> ".toList ++
    match report.rendering, report.problem with
    | some rendering, _ => rendering
    | none, some problem => '[' :: problem ++ [']']
    | none, none => "[not GBK]".toList

/-- The report as a JSON value. -/
def json (report : NameReport) : Json :=
  .object [
    ("input", .text report.input),
    ("hex", .text (Hex.encode report.raw)),
    ("gbk", .bool report.outcome.isSome),
    ("utf8", .ofText? report.rendering),
    ("error", .ofText? report.problem)]

end NameReport

/-! ### Look-ups -/

namespace LookupReport

/-- The name that was found. -/
def found (report : LookupReport) : Option Bytes :=
  report.outcome.toOption

/-- The name that was found as text, if it is text. -/
def display (report : LookupReport) : Option Text :=
  report.found.bind Utf8.decode?

/-- Why nothing was found. -/
def problem (report : LookupReport) : Option Text :=
  match report.outcome with
  | .error e => some e.message.toList
  | .ok _ => none

/-- The report on one line. -/
def line (report : LookupReport) : Text :=
  report.query ++ " -> ".toList ++
    match report.outcome, report.display with
    | .ok found, some display => Hex.encode found ++ " (".toList ++ display ++ [')']
    | .ok found, none => Hex.encode found
    | .error e, _ => '[' :: e.message.toList ++ [']']

/-- The report as a JSON value. -/
def json (report : LookupReport) : Json :=
  .object [
    ("query", .text report.query),
    ("found", .ofText? (report.found.map Hex.encode)),
    ("display", .ofText? report.display),
    ("error", .ofText? report.problem)]

end LookupReport

/-! ### Remembered conversions -/

namespace Entry

/-- The converted form as text to show. -/
def display (e : Entry) : Text :=
  Utf8.lossy e.converted

/-- An entry on one line. -/
def line (e : Entry) : Text :=
  Hex.encode e.raw ++ " <-> ".toList ++ Hex.encode e.converted ++ " (".toList ++ e.display
    ++ [')']

/-- An entry as a JSON value. -/
def json (e : Entry) : Json :=
  .object [
    ("original", .text (Hex.encode e.raw)),
    ("converted", .text (Hex.encode e.converted)),
    ("display", .text e.display)]

end Entry

/-! ### Services -/

namespace Registry

/-- Converts a typed name if it is a GBK name. -/
def report (r : Registry) (input : Text) (raw : Bytes) : Noted (NameReport × Registry) :=
  if isGbkName raw then do
    let (outcome, r) ← r.convert raw
    return (⟨input, raw, some outcome⟩, r)
  else
    pure (⟨input, raw, none⟩, r)

/-- Looks a typed name up. -/
def lookupReport (r : Registry) (query : Text) (name : Bytes) : Noted LookupReport := do
  return ⟨query, ← r.lookup name⟩

end Registry

end WifiNames
