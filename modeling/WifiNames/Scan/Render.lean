import WifiNames.Json
import WifiNames.Scan.Segment

namespace WifiNames.Scan

/-!
# Rendering — segments as output

* `green` — a text in green on a terminal.
* `bracketed`, `renderText` — the line with each converted name in brackets after the name as scanned.
* `report`, `renderJson` — the names of the line as a JSON value, and that value as it is printed.
* `Style`, `render` — the choice between the two.
* `describe` — one segment on one line, for diagnostics.
-/

/-- The control sequence that turns the foreground green. -/
def greenOn : Text :=
  "\x1B[32m".toList

/-- The control sequence that turns all attributes off. -/
def resetAll : Text :=
  "\x1B[0m".toList

/-- A text in which green is turned on again wherever the text itself turns all attributes off. -/
def keepGreen : Text → Text
  | [] => []
  | '\x1B' :: '[' :: '0' :: 'm' :: rest => resetAll ++ greenOn ++ keepGreen rest
  | c :: rest => c :: keepGreen rest

/-- A text in green. -/
def green (t : Text) : Text :=
  greenOn ++ keepGreen t ++ resetAll

/-- A converted name as it is inserted into a line. -/
def bracketed (colour : Bool) (rendering : Text) : Text :=
  " [".toList ++ (if colour then green rendering else rendering) ++ "]".toList

/-- A segment with its converted name. -/
def Segment.render (colour : Bool) (s : Segment) : Text :=
  match s.rendering with
  | some rendering => s.text ++ bracketed colour rendering
  | none => s.text

/-- Segments as a line of text. -/
def renderText (colour : Bool) (segments : List Segment) : Text :=
  segments.flatMap (Segment.render colour)

/-- A segment as part of a JSON report. -/
def Segment.json (s : Segment) : Json :=
  .object [
    ("gbk", .bool s.gbk),
    ("hex", .ofText? (s.raw.map Hex.encode)),
    ("position", .object [("end", .number s.stop), ("start", .number s.start)]),
    ("text", .text s.text),
    ("utf8", .ofText? s.rendering)]

/-- The names among segments as a JSON value. -/
def report (segments : List Segment) : Json :=
  .object [("entities", .list ((segments.filter Segment.isName).map Segment.json))]

/-- That value as it is printed. -/
def renderJson (segments : List Segment) : Text :=
  (report segments).pretty

/-- How annotated lines are written. -/
structure Style where
  /-- As a JSON report rather than as text. -/
  json : Bool
  /-- With converted names in green. -/
  colour : Bool

/-- Segments in the given style. -/
def render (style : Style) (segments : List Segment) : Text :=
  if style.json then renderJson segments else renderText style.colour segments

/-- A segment on one line. -/
def Segment.describe (s : Segment) : Text :=
  match s.raw, s.rendering with
  | some raw, some rendering =>
    s.text ++ " (".toList ++ Hex.encode raw ++ ") -> ".toList ++ rendering
  | some raw, none => s.text ++ " (".toList ++ Hex.encode raw ++ ")".toList
  | none, _ => s.text

end WifiNames.Scan
