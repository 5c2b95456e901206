import WifiNames.Text.Hex
import WifiNames.Yaml.Fault
import WifiNames.Yaml.Token
import WifiNames.Yaml.Token.Folding

namespace WifiNames.Yaml

/-!
# Quoted scalars

Between single quotes only the quote itself is special, and is written twice.  Between double
quotes a backslash introduces an escape.

* `escaped?` — the character of an escape with one letter.
* `scanSingle`, `scanDouble` — read on after the opening quote.
-/

/-- Reads on in a single-quoted scalar, and past its closing quote. -/
def scanSingle (f : Folding) : Text → Mark → Except Fault (Text × Text × Mark)
  | [], _ => .error .unclosedQuotes
  | c :: rest, m =>
    if isBreak c then
      scanSingle (f.space c) rest m.newLine
    else if isBlank c then
      scanSingle (f.space c) rest (m.skip 1)
    else if m.column == 0 && startsDocument (c :: rest) then
      .error .documentInQuotes
    else if c == '\'' then
      match rest with
      | '\'' :: rest => scanSingle (f.push '\'') rest (m.skip 2)
      | rest => .ok (f.join.text, rest, m.skip 1)
    else
      scanSingle (f.push c) rest (m.pass c)

/-- The character of an escape with one letter. -/
def escaped? (c : Char) : Option Char :=
  match c with
  | '0' => some '\x00'
  | 'a' => some '\x07'
  | 'b' => some '\x08'
  | 't' | '\t' => some '\t'
  | 'n' => some '\n'
  | 'v' => some '\x0B'
  | 'f' => some '\x0C'
  | 'r' => some '\r'
  | 'e' => some '\x1B'
  | ' ' => some ' '
  | '"' => some '"'
  | '/' => some '/'
  | '\\' => some '\\'
  | 'N' => some '\u0085'
  | '_' => some '\u00A0'
  | 'L' => some '\u2028'
  | 'P' => some '\u2029'
  | _ => none

/-- How many hex digits follow the letter of an escape that gives a code point. -/
def codeLength? (c : Char) : Option Nat :=
  match c with
  | 'x' => some 2
  | 'u' => some 4
  | 'U' => some 8
  | _ => none

/-- The character with a code point. -/
def charOf? (code : Nat) : Option Char :=
  if code.isValidChar then some (Char.ofNat code) else none

/-- Reads on in a double-quoted scalar, and past its closing quote.  Within the digits of an
    escape, `code` is how many are still to come and what those before them add up to. -/
def scanDouble (f : Folding) (code : Option (Nat × Nat)) :
    Text → Mark → Except Fault (Text × Text × Mark)
  | [], _ => .error .unclosedQuotes
  | c :: rest, m =>
    match code with
    | some (missing, sum) =>
      match Hex.value? c with
      | none => .error .badEscape
      | some digit =>
        if missing == 1 then
          match charOf? (16 * sum + digit) with
          | some char => scanDouble (f.push char) none rest (m.skip 1)
          | none => .error .badEscape
        else
          scanDouble f (some (missing - 1, 16 * sum + digit)) rest (m.skip 1)
    | none =>
      if isBreak c then
        scanDouble (f.space c) none rest m.newLine
      else if isBlank c then
        scanDouble (f.space c) none rest (m.skip 1)
      else if m.column == 0 && startsDocument (c :: rest) then
        .error .documentInQuotes
      else if c == '"' then
        .ok (f.join.text, rest, m.skip 1)
      else if c == '\\' then
        match rest with
        | [] => .error .badEscape
        | e :: rest =>
          if isBreak e then
            scanDouble f.join.escapeBreak none rest (m.skip 1).newLine
          else
            match escaped? e, codeLength? e with
            | some char, _ => scanDouble (f.push char) none rest (m.skip 2)
            | none, some digits => scanDouble f.join (some (digits, 0)) rest (m.skip 2)
            | none, none => .error .badEscape
      else
        scanDouble (f.push c) none rest (m.pass c)

end WifiNames.Yaml
