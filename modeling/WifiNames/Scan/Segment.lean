import WifiNames.Scan.Token
import WifiNames.Text.Escape

namespace WifiNames.Scan

/-!
# Segments — a line cut into names and what stands between them

* `Segment` — a stretch of a line, with what is known about the name in it.
* `names` — the segments of a line that hold names.
* `complete` — fills the gaps between given segments with plain ones.
-/

/-- A stretch of a line.  It holds a name if `raw` is given. -/
structure Segment where
  /-- Where it starts, in bytes. -/
  start : Nat
  /-- Where it ends, in bytes. -/
  stop : Nat
  /-- What it says. -/
  text : Text
  /-- The bytes of the name. -/
  raw : Option Bytes
  /-- Whether the name is a GBK name. -/
  gbk : Bool
  /-- The name after conversion. -/
  rendering : Option Text
  deriving DecidableEq

namespace Segment

/-- A segment without a name. -/
def plain (start stop : Nat) (text : Text) : Segment :=
  ⟨start, stop, text, none, false, none⟩

/-- The segment of a token: its name is what the token's escapes stand for. -/
def ofToken (t : Token) : Segment :=
  ⟨t.start, t.stop, t.text, some (Escape.decode t.text), false, none⟩

/-- Whether a segment holds a name. -/
def isName (s : Segment) : Bool :=
  s.raw.isSome

end Segment

/-- The segments of a line that hold names: its last field if that has an escaped byte, and its
    tokens otherwise. -/
def names (line : Text) : List Segment :=
  match field? line with
  | some token => [.ofToken token]
  | none => (tokens line).map .ofToken

/-- Segments in the order of their starts; segments with the same start keep their order. -/
def sortByStart (segments : List Segment) : List Segment :=
  segments.mergeSort fun a b => a.start ≤ b.start

/-- Sorted segments from byte `pos` on, with plain segments for what lies between them. -/
def fillGaps (line : Text) (pos : Nat) : List Segment → List Segment
  | [] =>
    if pos < Utf8.length line then
      [.plain pos (Utf8.length line) (Utf8.dropBytes pos line)]
    else
      []
  | s :: rest =>
    if pos < s.start then
      .plain pos s.start (Utf8.slice pos s.start line) :: s :: fillGaps line s.stop rest
    else
      s :: fillGaps line s.stop rest

/-- The segments of a whole line: the given ones and the plain ones between them. -/
def complete (line : Text) (segments : List Segment) : List Segment :=
  if segments.isEmpty then
    [.plain 0 (Utf8.length line) line]
  else
    fillGaps line 0 (sortByStart segments)

end WifiNames.Scan
