import WifiNames.Basic

namespace WifiNames.Yaml

/-!
# Tokens — the words of a YAML text

* `ScalarStyle` — how a scalar is written.
* `Token` — scalars, indicators, and the ends of blocks that indentation implies.
* `Mark` — a position in the text.
-/

/-- How a scalar is written. -/
inductive ScalarStyle where
  | plain
  | singleQuoted
  | doubleQuoted
  | literal
  | folded
  deriving DecidableEq

/-- A word of a YAML text. -/
inductive Token where
  | version (major minor : Nat)
  | handle (name : Text) (expansion : Bytes)
  | documentStart
  | documentEnd
  | blockSequenceStart
  | blockMappingStart
  | blockEnd
  | flowSequenceStart
  | flowSequenceEnd
  | flowMappingStart
  | flowMappingEnd
  | blockEntry
  | flowEntry
  | key
  | value
  | alias (name : Text)
  | anchor (name : Text)
  | tag (handle : Text) (suffix : Bytes)
  | scalar (style : ScalarStyle) (text : Text)
  deriving DecidableEq

/-- A position: how many line breaks precede it in the text, and how many bytes and how many
    characters in its line. -/
structure Mark where
  line : Nat
  bytes : Nat
  column : Nat

namespace Mark

/-- The beginning of a text. -/
def start : Mark :=
  ⟨0, 0, 0⟩

/-- The position some ASCII characters further in the same line. -/
def skip (m : Mark) (n : Nat) : Mark :=
  ⟨m.line, m.bytes + n, m.column + n⟩

/-- The position after one more character of the same line. -/
def pass (m : Mark) (c : Char) : Mark :=
  ⟨m.line, m.bytes + c.utf8Size, m.column + 1⟩

/-- The position after some text of the same line. -/
def passAll (m : Mark) (t : Text) : Mark :=
  t.foldl pass m

/-- The position after a line break. -/
def newLine (m : Mark) : Mark :=
  ⟨m.line + 1, 0, 0⟩

end Mark

end WifiNames.Yaml
