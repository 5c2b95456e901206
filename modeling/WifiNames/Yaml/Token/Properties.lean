import WifiNames.Text.Hex
import WifiNames.Yaml.Character
import WifiNames.Yaml.Fault
import WifiNames.Yaml.Token

namespace WifiNames.Yaml

/-!
# Properties and directives — anchors, tags and what declares them

Each reader gets the text after the indicator and answers the token and the rest of the text.

* `scanName` — the name of an anchor or an alias.
* `scanTag` — a tag, as a handle and a suffix.
* `scanDirective` — a line that begins with a percent sign.
-/

/-- Whether a text goes on with something that can follow the name of an anchor. -/
def endsName : Text → Bool
  | [] => true
  | c :: rest =>
    startsBlank (c :: rest) || c == '?' || c == ':' || c == ',' || c == ']' || c == '}'
      || c == '%' || c == '@' || c == '\x60'

/-- Reads the name of an anchor or an alias. -/
def scanName (t : Text) : Except Fault (Text × Text) :=
  let name := t.takeWhile isWordChar
  let rest := t.dropWhile isWordChar
  if name.isEmpty || !endsName rest then .error .badAnchor else .ok (name, rest)

/-! ### Tags -/

/-- The characters of a tag.  Those that structure flow collections are allowed only where the
    end of the tag is marked. -/
def isTagChar (marked : Bool) (c : Char) : Bool :=
  isWordChar c || ";/?:@&=+$.!~*'()".toList.contains c
    || (marked && (c == ',' || c == '[' || c == ']'))

/-- How many tail bytes a character still needs after the byte `b`, if it needed `missing` of them
    before.  Only the form of the bytes counts: overlong forms and surrogates are let through. -/
def missingAfter (missing : Nat) (b : UInt8) : Except Fault Nat :=
  if missing != 0 then
    if Utf8.isTail b then .ok (missing - 1) else .error .badTag
  else if b < 0x80 then .ok 0
  else if 0xC0 ≤ b && b ≤ 0xDF then .ok 1
  else if 0xE0 ≤ b && b ≤ 0xEF then .ok 2
  else if 0xF0 ≤ b && b ≤ 0xF7 then .ok 3
  else .error .badTag

/-- Reads the characters of a tag, where a percent sign introduces a byte in hex.  All bytes of a
    character are written in hex or none; `missing` of them are still to come. -/
def tagBytes (marked : Bool) (missing : Nat) : Text → Except Fault (Bytes × Text)
  | '%' :: high :: low :: rest =>
    match Hex.value? high, Hex.value? low with
    | some h, some l => do
      let missing ← missingAfter missing (Hex.join h l)
      let (bytes, rest) ← tagBytes marked missing rest
      return (Hex.join h l :: bytes, rest)
    | _, _ => .error .badTag
  | c :: rest =>
    if missing != 0 || c == '%' then .error .badTag
    else if isTagChar marked c then do
      let (bytes, rest) ← tagBytes marked 0 rest
      return (c.toNat.toUInt8 :: bytes, rest)
    else
      .ok ([], c :: rest)
  | [] => if missing != 0 then .error .badTag else .ok ([], [])

/-- A tag goes on up to its first NUL. -/
def untilNul (tag : Bytes) : Bytes :=
  tag.takeWhile (· != 0)

/-- Reads a tag that must not be empty; a NUL in front is enough for that. -/
def tagText (marked : Bool) (t : Text) : Except Fault (Bytes × Text) := do
  let (bytes, rest) ← tagBytes marked 0 t
  if bytes.isEmpty then throw .badTag else return (untilNul bytes, rest)

/-- Reads a handle after its exclamation mark: word characters, and a second mark if there is
    one.  Answers the handle, whether it is closed by a second mark, and the rest. -/
def scanHandle (t : Text) : Text × Bool × Text :=
  let word := t.takeWhile isWordChar
  match t.dropWhile isWordChar with
  | '!' :: rest => ('!' :: word ++ ['!'], true, rest)
  | rest => ('!' :: word, false, rest)

/-- Whether a tag may end here. -/
def endsTag (inFlow : Bool) (t : Text) : Bool :=
  startsBlank t || (inFlow && t.head? == some ',')

/-- Reads a tag after its exclamation mark. -/
def scanTag (inFlow : Bool) (t : Text) : Except Fault (Token × Text) := do
  let (token, rest) ← match t with
    | '<' :: rest =>
      match ← tagText true rest with
      | (suffix, '>' :: rest) => pure (Token.tag [] suffix, rest)
      | _ => throw .badTag
    | t =>
      match scanHandle t with
      | (handle, true, rest) => do
        let (suffix, rest) ← tagText false rest
        pure (Token.tag handle suffix, rest)
      | (handle, false, rest) => do
        let (bytes, rest) ← tagBytes false 0 rest
        let suffix := untilNul (Utf8.encode (handle.drop 1) ++ bytes)
        pure (if suffix.isEmpty then Token.tag [] [0x21] else Token.tag ['!'] suffix, rest)
  if endsTag inFlow rest then return (token, rest) else throw .badTag

/-! ### Directives -/

/-- Reads a number of a version. -/
def versionNumber (t : Text) : Except Fault (Nat × Text) :=
  let digits := t.takeWhile Char.isDigit
  if digits.isEmpty || 9 < digits.length then
    .error .badDirective
  else
    .ok (digits.foldl (fun n c => 10 * n + (c.toNat - 0x30)) 0, t.dropWhile Char.isDigit)

/-- Reads the value of a version directive. -/
def scanVersion (t : Text) : Except Fault (Token × Text) := do
  match ← versionNumber (t.dropWhile isBlank) with
  | (major, '.' :: rest) => do
    let (minor, rest) ← versionNumber rest
    return (.version major minor, rest)
  | _ => throw .badDirective

/-- Reads the value of a directive that declares a tag handle. -/
def scanHandleDirective (t : Text) : Except Fault (Token × Text) := do
  match t.dropWhile isBlank with
  | '!' :: rest =>
    let (handle, closed, rest) := scanHandle rest
    if !closed && handle != ['!'] then throw .badDirective
    match rest with
    | c :: _ =>
      if !isBlank c then throw .badDirective
      let (expansion, rest) ← tagText true (rest.dropWhile isBlank)
      if startsBlank rest then return (.handle handle expansion, rest) else throw .badDirective
    | [] => throw .badDirective
  | _ => throw .badDirective

/-- Reads a directive after its percent sign, up to the end of its line. -/
def scanDirective (t : Text) : Except Fault (Token × Text) := do
  let name := t.takeWhile isWordChar
  let rest := t.dropWhile isWordChar
  if !startsBlank rest then throw .badDirective
  let (token, rest) ←
    if name == "YAML".toList then scanVersion rest
    else if name == "TAG".toList then scanHandleDirective rest
    else throw .badDirective
  let rest := match rest.dropWhile isBlank with
    | '#' :: comment => comment.dropWhile (!isBreak ·)
    | rest => rest
  if startsBreak rest then return (token, rest) else throw .badDirective

end WifiNames.Yaml
