import WifiNames.Text.Hex

namespace WifiNames.Escape

/-!
# Escapes — names as scan output prints them

Scan output shows a name as text in which a backslash introduces a byte that cannot be printed.

* `Piece` — one character or one escape of such a text.
* `pieces` — reads a text as pieces, from its start.
* `decode` — the bytes that a text stands for.
-/

/-- One character or one escape. -/
inductive Piece where
  /-- A character that stands for itself. -/
  | plain (c : Char)
  /-- A backslash and a character. -/
  | named (c : Char)
  /-- A backslash, `x` and one hex digit. -/
  | short (digit : Char)
  /-- A backslash, `x` and two hex digits. -/
  | full (high low : Char)
  /-- A backslash at the end of the text. -/
  | lone

namespace Piece

/-- A piece as it is written. -/
def text : Piece → Text
  | plain c => [c]
  | named c => ['\\', c]
  | short d => ['\\', 'x', d]
  | full h l => ['\\', 'x', h, l]
  | lone => ['\\']

/-- The bytes of a named escape.  Line feed, carriage return, tab and escape have letters of
    their own, and any other character stands for itself. -/
def namedBytes (c : Char) : Bytes :=
  match c with
  | 'n' => [0x0A]
  | 'r' => [0x0D]
  | 't' => [0x09]
  | 'e' => [0x1B]
  | c => String.utf8EncodeChar c

/-- The bytes that a piece stands for. -/
def bytes : Piece → Bytes
  | plain c => String.utf8EncodeChar c
  | named c => namedBytes c
  | short d => [Hex.join 0 ((Hex.value? d).getD 0)]
  | full h l => [Hex.join ((Hex.value? h).getD 0) ((Hex.value? l).getD 0)]
  | lone => [0x5C]

end Piece

/-- The pieces of a text.  An escape takes as many hex digits as there are, up to two; without
    any, the letter `x` stands for itself. -/
def pieces : Text → List Piece
  | [] => []
  | c :: rest =>
    if c = '\\' then
      match rest with
      | [] => [.lone]
      | 'x' :: rest =>
        match rest with
        | [] => [.named 'x']
        | h :: rest =>
          if Hex.isDigit h then
            match rest with
            | [] => [.short h]
            | l :: rest =>
              if Hex.isDigit l then .full h l :: pieces rest
              else .short h :: pieces (l :: rest)
          else
            .named 'x' :: pieces (h :: rest)
      | d :: rest => .named d :: pieces rest
    else
      .plain c :: pieces rest

/-- The bytes that a text stands for. -/
def decode (t : Text) : Bytes :=
  (pieces t).flatMap Piece.bytes

end WifiNames.Escape
