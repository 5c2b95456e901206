import WifiNames.Text.Hex
import WifiNames.Yaml.Character
import WifiNames.Yaml.Scalar
import WifiNames.Yaml.Token

namespace WifiNames.Yaml

/-!
# Writer — texts as scalars

A text is written in the plainest style that reads back as the same text.

* `style` — the choice of a style.
* `writePlain`, `writeSingle`, `writeDouble`, `writeLiteral` — the styles.
* `writeText` — a text as the value of a field, with the end of its line.
-/

/-! ### The choice of a style -/

/-- Whether two neighbours in a text satisfy `p`. -/
def anyNeighbours (p : Char → Char → Bool) : Text → Bool
  | a :: b :: rest => p a b || anyNeighbours p (b :: rest)
  | _ => false

/-- Whether a text holds a character that must be escaped. -/
def hasSpecial (t : Text) : Bool :=
  t.any (!isPrintable ·)

/-- Whether a space comes right before a break. -/
def hasSpaceBeforeBreak (t : Text) : Bool :=
  anyNeighbours (fun a b => a == ' ' && isBreak b) t

/-- Whether a space comes right after a break. -/
def hasSpaceAfterBreak (t : Text) : Bool :=
  anyNeighbours (fun a b => isBreak a && b == ' ') t

/-- Whether a colon comes before a blank or at the end. -/
def hasColonBeforeBlank : Text → Bool
  | [] => false
  | c :: rest => (c == ':' && startsBlank rest) || hasColonBeforeBlank rest

/-- Whether a number sign comes after a blank. -/
def hasCommentAfterBlank (t : Text) : Bool :=
  anyNeighbours (fun a b => (isBlank a || isBreak a) && b == '#') t

/-- Whether a text begins like something else than a plain scalar. -/
def startsIndicator : Text → Bool
  | [] => false
  | c :: rest =>
    "#,[]\x7b\x7d&*!|>'\"%@\x60".toList.contains c
      || ((c == '?' || c == '-') && startsBlank rest)
      || "---".toList.isPrefixOf (c :: rest) || "...".toList.isPrefixOf (c :: rest)

/-- Whether a text has a space or a break at one of its ends. -/
def hasOuterSpace (t : Text) : Bool :=
  let outer := fun c => c == ' ' || isBreak c
  t.head?.any outer || t.getLast?.any outer

/-- Whether a text may be written plain. -/
def allowsPlain (t : Text) : Bool :=
  !(hasOuterSpace t || t.any isBreak || hasSpecial t || startsIndicator t || hasColonBeforeBlank t
    || hasCommentAfterBlank t)

/-- Whether a text may be written between single quotes. -/
def allowsSingle (t : Text) : Bool :=
  !(hasSpaceAfterBreak t || hasSpaceBeforeBreak t || hasSpecial t)

/-- Whether a text may be written as a block. -/
def allowsBlock (t : Text) : Bool :=
  !(t.getLast? == some ' ' || hasSpaceBeforeBreak t || hasSpecial t)

/-- The style of a text. -/
def style (t : Text) : ScalarStyle :=
  if t.contains '\n' then
    if allowsBlock t then .literal else .doubleQuoted
  else if isText t && allowsPlain t then .plain
  else if allowsSingle t then .singleQuoted
  else .doubleQuoted

/-! ### The styles -/

/-- How far the lines of a scalar are indented. -/
def margin : Text :=
  List.replicate 4 ' '

/-- Lines of a scalar: after a break the margin comes before the next character.  `fresh` tells
    that a break came last, and `write` gives the form of a character. -/
def writeLines (write : Char → Text) (fresh : Bool) : Text → Text
  | [] => []
  | c :: rest =>
    if isBreak c then c :: writeLines write true rest
    else (if fresh then margin else []) ++ write c ++ writeLines write false rest

/-- A character between single quotes. -/
def writeSingleChar (c : Char) : Text :=
  if c == '\'' then ['\'', '\''] else [c]

/-- A text between single quotes. -/
def writeSingle (t : Text) : Text :=
  let body := writeLines writeSingleChar false t
  '\'' :: body ++ (if t.getLast?.any isBreak then margin else []) ++ ['\'']

/-- A hex digit in uppercase. -/
def upperDigit (n : Nat) : Char :=
  (Hex.digit n).toUpper

/-- The last `width` hex digits of a number. -/
def upperHex (n : Nat) : Nat → Text
  | 0 => []
  | width + 1 => upperHex (n / 16) width ++ [upperDigit (n % 16)]

/-- The escape for a character. -/
def escapeCode (c : Char) : Text :=
  match c with
  | '\x00' => ['0']
  | '\x07' => ['a']
  | '\x08' => ['b']
  | '\t' => ['t']
  | '\n' => ['n']
  | '\x0B' => ['v']
  | '\x0C' => ['f']
  | '\r' => ['r']
  | '\x1B' => ['e']
  | '"' => ['"']
  | '\\' => ['\\']
  | '\u0085' => ['N']
  | '\u00A0' => ['_']
  | '\u2028' => ['L']
  | '\u2029' => ['P']
  | c =>
    let n := c.toNat
    if n ≤ 0xFF then 'x' :: upperHex n 2
    else if n ≤ 0xFFFF then 'u' :: upperHex n 4
    else 'U' :: upperHex n 8

/-- A character between double quotes. -/
def writeDoubleChar (c : Char) : Text :=
  if !isPrintable c || isBreak c || c == '"' || c == '\\' then '\\' :: escapeCode c else [c]

/-- A text between double quotes. -/
def writeDouble (t : Text) : Text :=
  '"' :: t.flatMap writeDoubleChar ++ ['"']

/-- The indicators of a literal block: how it is indented if its first line does not show that,
    and what happens to the breaks at its end. -/
def blockIndicators (t : Text) : Text :=
  let indentation := if t.head?.any (fun c => c == ' ' || isBreak c) then ['2'] else []
  let chomping := match t.reverse with
    | [] => ['-']
    | last :: before =>
      if !isBreak last then ['-']
      else match before with
        | [] => ['+']
        | c :: _ => if isBreak c then ['+'] else []
  indentation ++ chomping

/-- A text as a literal block. -/
def writeLiteral (t : Text) : Text :=
  '|' :: blockIndicators t ++ '\n' :: writeLines (fun c => [c]) true t

/-- A text as the value of a field, with the end of its line. -/
def writeText (t : Text) : Text :=
  match style t with
  | .literal =>
    writeLiteral t ++ (if t.getLast?.any isBreak then [] else ['\n'])
  | .plain => t ++ ['\n']
  | .singleQuoted => writeSingle t ++ ['\n']
  | _ => writeDouble t ++ ['\n']

end WifiNames.Yaml
