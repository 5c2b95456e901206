import WifiNames.Basic

namespace WifiNames.Yaml

/-!
# Characters — the classes that the syntax speaks of

* `isAllowed` — what may stand in a YAML text at all.
* `isPrintable` — what is written as it is.
* `isBlank`, `isBreak` — spaces and tabs, and the ends of lines.
* `unifyBreaks` — a text in which one character ends a line.
* `startsBlank`, `startsDocument` — what the text ahead begins with.
-/

/-- The characters that may stand in a YAML text. -/
def isAllowed (c : Char) : Bool :=
  let n := c.toNat
  n == 0x09 || n == 0x0A || n == 0x0D || (0x20 ≤ n && n ≤ 0x7E) || n == 0x85
    || (0xA0 ≤ n && n ≤ 0xD7FF) || (0xE000 ≤ n && n ≤ 0xFFFD) || 0x10000 ≤ n

/-- The byte order mark. -/
def byteOrderMark : Char := '\uFEFF'

/-- The characters that are written as they are. -/
def isPrintable (c : Char) : Bool :=
  let n := c.toNat
  n == 0x0A || (0x20 ≤ n && n ≤ 0x7E) || (0xA0 ≤ n && n ≤ 0xD7FF)
    || (0xE000 ≤ n && n ≤ 0xFFFD && c != byteOrderMark) || 0x10000 ≤ n

/-- Spaces and tabs. -/
def isBlank (c : Char) : Bool :=
  c == ' ' || c == '\t'

/-- The characters that end a line. -/
def isBreak (c : Char) : Bool :=
  c == '\n' || c == '\r' || c == '\u0085' || c == '\u2028' || c == '\u2029'

/-- A text in which a line feed stands for every carriage return, with or without a line feed
    after it, and for every next-line character. -/
def unifyBreaks : Text → Text
  | [] => []
  | '\r' :: '\n' :: rest => '\n' :: unifyBreaks rest
  | c :: rest => (if c == '\r' || c == '\u0085' then '\n' else c) :: unifyBreaks rest

/-- The characters of anchors, handles and directive names. -/
def isWordChar (c : Char) : Bool :=
  c.isAlphanum || c == '_' || c == '-'

/-- The characters that structure flow collections. -/
def isFlowIndicator (c : Char) : Bool :=
  c == ',' || c == '[' || c == ']' || c == '{' || c == '}'

/-- Whether a text is at its end or goes on with a blank or a break. -/
def startsBlank : Text → Bool
  | [] => true
  | c :: _ => isBlank c || isBreak c

/-- Whether a text is at its end or goes on with a break. -/
def startsBreak : Text → Bool
  | [] => true
  | c :: _ => isBreak c

/-- Whether a text begins with three times the given character and then a blank. -/
def startsMarker (c : Char) : Text → Bool
  | a :: b :: d :: rest => a == c && b == c && d == c && startsBlank rest
  | _ => false

/-- Whether a line begins with the marker of a document's start or end. -/
def startsDocument (t : Text) : Bool :=
  startsMarker '-' t || startsMarker '.' t

end WifiNames.Yaml
