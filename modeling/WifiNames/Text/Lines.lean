import WifiNames.Basic

namespace WifiNames.Text

/-!
# Lines — splitting a stream

A line feed ends a line, and so does a carriage return right before a line feed together with
it.  The text after the last line feed is a line of its own unless it is empty.
-/

/-- The lines of a text, without their ends. -/
def lines : Text → List Text
  | [] => []
  | '\n' :: rest => [] :: lines rest
  | '\r' :: '\n' :: rest => [] :: lines rest
  | c :: rest =>
    match lines rest with
    | [] => [[c]]
    | line :: more => (c :: line) :: more

/-- The pieces of a run of bytes between line feeds; the last one unless it is empty. -/
def byteLines : Bytes → List Bytes
  | [] => []
  | b :: rest =>
    if b == 0x0A then
      [] :: byteLines rest
    else
      match byteLines rest with
      | [] => [[b]]
      | line :: more => (b :: line) :: more

end WifiNames.Text
