import WifiNames.Note
import WifiNames.Shape
import WifiNames.Text.Hex

namespace WifiNames

/-!
# Histories — remembered conversions

* `Entry` — a raw name and its converted form.
* `History` — entries in the order of their arrival, at most one for each raw name.
* `History.insert` — remembers a pair; the first conversion of a raw name stays.
* `History.lookup?` — from either form of a name to the other.

A history does not say in which direction a name is to be looked up.  The direction follows from
the name itself: a GBK name is looked for among the raw ones, any other among the converted ones.
-/

/-- A raw name and its converted form. -/
structure Entry where
  raw : Bytes
  converted : Bytes
  deriving DecidableEq

/-- Remembered conversions, oldest first. -/
structure History where
  entries : List Entry
  deriving DecidableEq

namespace History

/-- The history that remembers nothing. -/
def empty : History :=
  ⟨[]⟩

/-- How many conversions are remembered. -/
def size (h : History) : Nat :=
  h.entries.length

/-- Whether nothing is remembered. -/
def isEmpty (h : History) : Bool :=
  h.entries.isEmpty

/-- Whether a raw name has an entry. -/
def knows (h : History) (raw : Bytes) : Bool :=
  h.entries.any (·.raw == raw)

/-- Remembers a pair unless the raw name already has an entry. -/
def add (h : History) (raw converted : Bytes) : History :=
  if h.knows raw then h else ⟨h.entries ++ [⟨raw, converted⟩]⟩

/-- Remembers a pair as `add` does, and tells whether it was new. -/
def insert (h : History) (raw converted : Bytes) : Noted (Bool × History) :=
  if h.knows raw then
    pure (false, h)
  else do
    Noted.info (Hex.dumpLine "addToHistory: GBK " raw)
    Noted.info (Hex.dumpLine "addToHistory: UTF " converted)
    return (true, h.add raw converted)

/-- The counterpart of a name in the oldest entry that has one. -/
def lookup? (h : History) (query : Bytes) : Option Bytes :=
  if isGbkName query then
    (h.entries.find? (·.raw == query)).map Entry.converted
  else
    (h.entries.find? (·.converted == query)).map Entry.raw

/-- Notes every entry. -/
def dump (h : History) : Noted Unit := do
  Noted.info "*****"
  h.entries.forM fun e => do
    Noted.info (Hex.dumpLine "dumpHistory ssid" e.raw)
    Noted.info (Hex.dumpLine "dumpHistory utf_ssid" e.converted)

end History

end WifiNames
