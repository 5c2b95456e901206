import WifiNames.Yaml.Token.Block
import WifiNames.Yaml.Token.Plain
import WifiNames.Yaml.Token.Properties
import WifiNames.Yaml.Token.Quoted

namespace WifiNames.Yaml

/-!
# Lexer — from a text to its tokens

Indentation and the keys of mappings show only later than where they begin: a scalar turns out to
be a key when a colon follows it.  The lexer therefore remembers where a key may have begun, and
inserts tokens there once the colon is found.

* `Lexer` — the state: the text ahead, the open blocks and the places of possible keys.
* `Lexer.next` — reads one token, with those that it implies.
* `scanTokens` — all tokens of a text.
-/

/-- A place where the key of a mapping may have begun. -/
structure PossibleKey where
  /-- Whether it must turn out to be a key, being indented as one. -/
  required : Bool
  /-- How many tokens precede it. -/
  number : Nat
  mark : Mark

/-- The state of the lexer. -/
structure Lexer where
  rest : Text
  mark : Mark
  /-- How many flow collections are open. -/
  flow : Nat
  /-- The indentation of the innermost block, and negative outside of any. -/
  indent : Int
  /-- The indentations of the blocks around it, innermost first. -/
  outer : List Int
  /-- Whether a key may begin here. -/
  keyAllowed : Bool
  /-- For each open flow collection, and for the block around them, the latest possible key;
      innermost first. -/
  keys : List (Option PossibleKey)
  /-- How many tokens have been read. -/
  count : Nat
  /-- The tokens, last one first. -/
  reversed : List Token

namespace Lexer

/-- The state at the beginning of a text. -/
def start (t : Text) : Lexer :=
  ⟨t, .start, 0, -1, [], true, [none], 0, []⟩

/-- Whether any flow collection is open. -/
def inFlow (l : Lexer) : Bool :=
  l.flow != 0

/-- The state with one more token at the end. -/
def emit (l : Lexer) (token : Token) : Lexer :=
  { l with count := l.count + 1, reversed := token :: l.reversed }

/-- The state with one more token after the first `n` ones. -/
def insert (l : Lexer) (n : Nat) (token : Token) : Lexer :=
  let after := l.count - n
  { l with
    count := l.count + 1
    reversed := l.reversed.take after ++ token :: l.reversed.drop after }

/-- The state further on in the same line. -/
def skip (l : Lexer) (n : Nat) : Lexer :=
  { l with rest := l.rest.drop n, mark := l.mark.skip n }

/-- The state at a place reached by a reader. -/
def moveTo (l : Lexer) (rest : Text) (mark : Mark) : Lexer :=
  { l with rest := rest, mark := mark }

/-- The state further on in the same line, where only `rest` is left. -/
def moveBefore (l : Lexer) (rest : Text) : Lexer :=
  l.moveTo rest (l.mark.passAll (l.rest.take (l.rest.length - rest.length)))

/-! ### Possible keys -/

/-- Gives up keys that do not end in their line and within 1024 bytes. -/
def dropStaleKeys (l : Lexer) : Except Fault Lexer := do
  let keys ← l.keys.mapM fun key =>
    match key with
    | none => pure none
    | some key =>
      if key.mark.line < l.mark.line || key.mark.bytes + 1024 < l.mark.bytes then
        if key.required then throw Fault.missingColon else pure none
      else
        pure (some key)
  return { l with keys := keys }

/-- Gives up the latest possible key. -/
def dropKey (l : Lexer) : Except Fault Lexer :=
  match l.keys with
  | some key :: outer =>
    if key.required then .error .missingColon else .ok { l with keys := none :: outer }
  | _ => .ok l

/-- Remembers that a key may begin here. -/
def saveKey (l : Lexer) : Except Fault Lexer := do
  if l.keyAllowed then
    let l ← l.dropKey
    let key : PossibleKey :=
      ⟨!l.inFlow && l.indent == (l.mark.column : Int), l.count, l.mark⟩
    return { l with keys := some key :: l.keys.drop 1 }
  else
    return l

/-- Tells whether a key may begin next. -/
def allowKey (l : Lexer) (allowed : Bool) : Lexer :=
  { l with keyAllowed := allowed }

/-! ### Blocks -/

/-- Opens a block at a column unless one is open there, and inserts its token after `n` tokens. -/
def openBlock (l : Lexer) (column : Nat) (n : Nat) (token : Token) : Lexer :=
  if !l.inFlow && l.indent < column then
    { l.insert n token with indent := column, outer := l.indent :: l.outer }
  else
    l

/-- How many blocks end where the text goes on at a column, and the blocks that are left. -/
def endedBlocks (column : Int) (indent : Int) : List Int → Nat × Int × List Int
  | [] => (0, indent, [])
  | next :: outer =>
    if column < indent then
      let (n, left) := endedBlocks column next outer
      (n + 1, left)
    else
      (0, indent, next :: outer)

/-- Closes the blocks that end where the text goes on at a column. -/
def closeBlocks (l : Lexer) (column : Int) : Lexer :=
  if l.inFlow then l
  else
    let (n, indent, outer) := endedBlocks column l.indent l.outer
    { l with
      count := l.count + n
      reversed := List.replicate n .blockEnd ++ l.reversed
      indent := indent
      outer := outer }

/-! ### Tokens -/

/-- Passes blanks, comments and line breaks.  Outside of flow collections a tab must not stand
    where a key may begin, and a key may begin in a new line. -/
def passBlanks (inFlow comment allowed : Bool) : Text → Mark → Text × Mark × Bool
  | [], m => ([], m, allowed)
  | c :: rest, m =>
    if isBreak c then
      passBlanks inFlow false (allowed || !inFlow) rest m.newLine
    else if comment || c == '#' then
      passBlanks inFlow true allowed rest (m.pass c)
    else if c == ' ' || (c == '\t' && (inFlow || !allowed))
        || (c == byteOrderMark && m.column == 0) then
      passBlanks inFlow false allowed rest (m.pass c)
    else
      (c :: rest, m, allowed)

/-- Reads the marker of a document's start or end. -/
def document (l : Lexer) (token : Token) : Except Fault Lexer := do
  let l ← (l.closeBlocks (-1)).dropKey
  return ((l.allowKey false).emit token).skip 3

/-- Reads a directive. -/
def directive (l : Lexer) : Except Fault Lexer := do
  let l ← (l.closeBlocks (-1)).dropKey
  let (token, rest) ← scanDirective (l.rest.drop 1)
  return ((l.allowKey false).emit token).moveBefore rest

/-- Reads the opening bracket of a flow collection. -/
def openFlow (l : Lexer) (token : Token) : Except Fault Lexer := do
  let l ← l.saveKey
  let l := { l with flow := l.flow + 1, keys := none :: l.keys }
  return ((l.allowKey true).emit token).skip 1

/-- Reads the closing bracket of a flow collection. -/
def closeFlow (l : Lexer) (token : Token) : Except Fault Lexer := do
  let l ← l.dropKey
  let l := if l.inFlow then { l with flow := l.flow - 1, keys := l.keys.drop 1 } else l
  return ((l.allowKey false).emit token).skip 1

/-- Reads a comma in a flow collection. -/
def flowEntry (l : Lexer) : Except Fault Lexer := do
  let l ← l.dropKey
  return ((l.allowKey true).emit .flowEntry).skip 1

/-- Reads the dash of an entry. -/
def blockEntry (l : Lexer) : Except Fault Lexer := do
  if !l.inFlow && !l.keyAllowed then throw .misplacedEntry
  let l ← (l.openBlock l.mark.column l.count .blockSequenceStart).dropKey
  return ((l.allowKey true).emit .blockEntry).skip 1

/-- Reads the question mark of a key. -/
def explicitKey (l : Lexer) : Except Fault Lexer := do
  if !l.inFlow && !l.keyAllowed then throw .misplacedKey
  let l ← (l.openBlock l.mark.column l.count .blockMappingStart).dropKey
  return ((l.allowKey !l.inFlow).emit .key).skip 1

/-- Reads the colon before a value. -/
def mappingValue (l : Lexer) : Except Fault Lexer := do
  match l.keys with
  | some key :: outer =>
    let l := (l.insert key.number .key).openBlock key.mark.column key.number .blockMappingStart
    let l := { l with keys := none :: outer }
    return ((l.allowKey false).emit .value).skip 1
  | _ =>
    if !l.inFlow && !l.keyAllowed then throw .misplacedValue
    let l := l.openBlock l.mark.column l.count .blockMappingStart
    return ((l.allowKey !l.inFlow).emit .value).skip 1

/-- Reads an anchor or an alias. -/
def name (l : Lexer) (token : Text → Token) : Except Fault Lexer := do
  let l ← l.saveKey
  let (name, rest) ← scanName (l.rest.drop 1)
  return ((l.allowKey false).emit (token name)).moveBefore rest

/-- Reads a tag. -/
def tag (l : Lexer) : Except Fault Lexer := do
  let l ← l.saveKey
  let (token, rest) ← scanTag l.inFlow (l.rest.drop 1)
  return ((l.allowKey false).emit token).moveBefore rest

/-- Reads a block scalar. -/
def block (l : Lexer) (literal : Bool) : Except Fault Lexer := do
  let l ← l.dropKey
  let (text, rest, mark) ← scanBlock literal l.indent (l.rest.drop 1) (l.mark.skip 1)
  let style := if literal then ScalarStyle.literal else .folded
  return ((l.allowKey true).emit (.scalar style text)).moveTo rest mark

/-- Reads a quoted scalar. -/
def quoted (l : Lexer) (single : Bool) : Except Fault Lexer := do
  let l ← l.saveKey
  let (text, rest, mark) ←
    if single then scanSingle .empty (l.rest.drop 1) (l.mark.skip 1)
    else scanDouble .empty none (l.rest.drop 1) (l.mark.skip 1)
  let style := if single then ScalarStyle.singleQuoted else .doubleQuoted
  return ((l.allowKey false).emit (.scalar style text)).moveTo rest mark

/-- Reads a plain scalar. -/
def plain (l : Lexer) : Except Fault Lexer := do
  let l ← l.saveKey
  let (f, rest, mark) ←
    scanPlain l.inFlow (l.indent + 1).toNat .empty false l.rest l.mark
  return ((l.allowKey f.ended).emit (.scalar .plain f.text)).moveTo rest mark

/-- The characters that do not begin a plain scalar by themselves. -/
def isIndicator (c : Char) : Bool :=
  "-?:,[]\x7b\x7d#&*!|>'\"%@\x60".toList.contains c

/-- Whether a plain scalar can begin with `c` before `rest`. -/
def startsPlain (inFlow : Bool) (c : Char) (rest : Text) : Bool :=
  !(isIndicator c || isBlank c) || (c == '-' && !(rest.head?.any isBlank))
    || (!inFlow && (c == '?' || c == ':') && !startsBlank rest)

/-- Reads the token that begins with `c` before `rest`. -/
def token (l : Lexer) (c : Char) (rest : Text) : Except Fault Lexer :=
  let lineStart := l.mark.column == 0
  if lineStart && c == '%' then l.directive
  else if lineStart && startsMarker '-' (c :: rest) then l.document .documentStart
  else if lineStart && startsMarker '.' (c :: rest) then l.document .documentEnd
  else if c == '[' then l.openFlow .flowSequenceStart
  else if c == '{' then l.openFlow .flowMappingStart
  else if c == ']' then l.closeFlow .flowSequenceEnd
  else if c == '}' then l.closeFlow .flowMappingEnd
  else if c == ',' then l.flowEntry
  else if c == '-' && startsBlank rest then l.blockEntry
  else if c == '?' && (l.inFlow || startsBlank rest) then l.explicitKey
  else if c == ':' && (l.inFlow || startsBlank rest) then l.mappingValue
  else if c == '*' then l.name .alias
  else if c == '&' then l.name .anchor
  else if c == '!' then l.tag
  else if c == '|' && !l.inFlow then l.block true
  else if c == '>' && !l.inFlow then l.block false
  else if c == '\'' then l.quoted true
  else if c == '"' then l.quoted false
  else if startsPlain l.inFlow c rest then l.plain
  else .error .strayCharacter

/-- Reads one token, with those that it implies. -/
def next (l : Lexer) : Except Fault Lexer := do
  let (rest, mark, allowed) := passBlanks l.inFlow false l.keyAllowed l.rest l.mark
  let l ← ((l.moveTo rest mark).allowKey allowed).dropStaleKeys
  let l := l.closeBlocks l.mark.column
  match l.rest with
  | [] => (l.closeBlocks (-1)).dropKey
  | c :: rest => l.token c rest

/-- Reads tokens to the end of the text.  Each of them takes a character at least, so `fuel` is
    the number of characters. -/
def run (l : Lexer) : Nat → Except Fault Lexer
  | 0 => l.next
  | fuel + 1 =>
    if l.rest.isEmpty then l.next
    else do (← l.next).run fuel

end Lexer

/-- The tokens of a text. -/
def scanTokens (t : Text) : Except Fault (List Token) :=
  if t.all isAllowed then do
    let text := unifyBreaks t
    let l ← (Lexer.start text).run text.length
    return l.reversed.reverse
  else
    .error .controlCharacter

end WifiNames.Yaml
