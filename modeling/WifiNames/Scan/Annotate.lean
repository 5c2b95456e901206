import WifiNames.Registry
import WifiNames.Scan.Render

namespace WifiNames

/-!
# Annotation — lines of scan output with converted names

* `Registry.annotateSegment` — classifies and converts the name of one segment.
* `Registry.annotate` — annotates a line.
* `Registry.annotateLines` — annotates lines, one after the other.
-/

namespace Registry

open Scan

/-- Classifies the name of a segment and converts a GBK name. -/
def annotateName (r : Registry) (s : Segment) (raw : Bytes) : Noted (Segment × Registry) :=
  if isGbkName raw then do
    match ← r.convert raw with
    | (.ok converted, r) =>
      return ({ s with gbk := true, rendering := Utf8.decode? converted }, r)
    | (.error e, r) =>
      Noted.warn ("Keeping raw SSID " ++ String.ofList s.text ++ ": " ++ e.message)
      return ({ s with gbk := true }, r)
  else
    pure ({ s with gbk := false }, r)

/-- Annotates one segment; a plain one stays as it is. -/
def annotateSegment (r : Registry) (s : Segment) : Noted (Segment × Registry) :=
  match s.raw with
  | none => pure (s, r)
  | some raw => do
    let (s, r) ← r.annotateName s raw
    Noted.debug (String.ofList s.describe)
    return (s, r)

/-- Annotates segments from left to right. -/
def annotateSegments (r : Registry) : List Segment → Noted (List Segment × Registry)
  | [] => pure ([], r)
  | s :: rest => do
    let (s, r) ← r.annotateSegment s
    let (rest, r) ← r.annotateSegments rest
    return (s :: rest, r)

/-- Annotates a line of scan output. -/
def annotate (r : Registry) (style : Style) (line : Text) : Noted (Text × Registry) := do
  let (segments, r) ← r.annotateSegments (names line)
  return (render style (complete line segments), r)

/-- Annotates lines of scan output. -/
def annotateLines (r : Registry) (style : Style) : List Text → Noted (List Text × Registry)
  | [] => pure ([], r)
  | line :: rest => do
    let (line, r) ← r.annotate style line
    let (rest, r) ← r.annotateLines style rest
    return (line :: rest, r)

end Registry

end WifiNames
