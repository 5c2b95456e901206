import WifiNames.Basic
import WifiNames.Text.Hex

namespace WifiNames

/-!
# JSON — reports for other programs

* `Json` — the values that reports are made of.
* `Json.quote` — a text as a string literal.
* `Json.pretty` — a value over several lines, two spaces for each level.
-/

/-- A JSON value. -/
inductive Json where
  | null
  | bool (value : Bool)
  | number (value : Nat)
  | text (value : Text)
  | list (items : List Json)
  | object (fields : List (String × Json))

namespace Json

/-- A value that may be missing. -/
def ofText? : Option Text → Json
  | some t => .text t
  | none => .null

/-- A character within a string literal.  Only quotes, backslashes and control characters below
    U+0020 are escaped. -/
def escape (c : Char) : Text :=
  match c with
  | '"' => "\\\"".toList
  | '\\' => "\\\\".toList
  | '\x08' => "\\b".toList
  | '\x0C' => "\\f".toList
  | '\n' => "\\n".toList
  | '\r' => "\\r".toList
  | '\t' => "\\t".toList
  | c => if c.toNat < 0x20 then "\\u00".toList ++ Hex.byte (UInt8.ofNat c.toNat) else [c]

/-- A text as a string literal. -/
def quote (t : Text) : Text :=
  '"' :: t.flatMap escape ++ ['"']

/-- The beginning of a line at the given depth. -/
def indent (depth : Nat) : Text :=
  '\n' :: List.replicate (2 * depth) ' '

mutual

/-- A value that stands at the given depth. -/
def write (depth : Nat) : Json → Text
  | .null => "null".toList
  | .bool value => (toString value).toList
  | .number value => (toString value).toList
  | .text value => quote value
  | .list items =>
    if items.isEmpty then "[]".toList
    else '[' :: writeItems (depth + 1) items ++ indent depth ++ [']']
  | .object fields =>
    if fields.isEmpty then ['\x7b', '\x7d']
    else '\x7b' :: writeFields (depth + 1) fields ++ indent depth ++ ['\x7d']

/-- The items of a list, each on lines of its own. -/
def writeItems (depth : Nat) : List Json → Text
  | [] => []
  | item :: rest =>
    indent depth ++ write depth item ++ (if rest.isEmpty then [] else [','])
      ++ writeItems depth rest

/-- The fields of an object, each on lines of its own. -/
def writeFields (depth : Nat) : List (String × Json) → Text
  | [] => []
  | (key, value) :: rest =>
    indent depth ++ quote key.toList ++ ": ".toList ++ write depth value
      ++ (if rest.isEmpty then [] else [',']) ++ writeFields depth rest

end

/-- A value over several lines. -/
def pretty (value : Json) : Text :=
  write 0 value

end Json

end WifiNames
