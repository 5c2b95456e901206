import WifiNames.Error
import WifiNames.Text.Blank
import WifiNames.Text.Hex

namespace WifiNames.Hex

/-!
# Hex — reading names as typed

A name in hex may have blanks around it and `0x` in front of it, and ASCII blanks and colons
anywhere between its digits.  Parity is counted in the bytes of the text, so a character outside
of ASCII may be reported as an odd digit.
-/

/-- Text without one leading `0x` or `0X`. -/
def dropRadix : Text → Text
  | '0' :: 'x' :: rest => rest
  | '0' :: 'X' :: rest => rest
  | t => t

/-- Whether a byte may stand between digits. -/
def isSeparator (b : UInt8) : Bool :=
  Text.isAsciiBlank b || b == 0x3A

/-- What is left of a typed name to be read as digits. -/
def digits (input : Text) : Bytes :=
  (Utf8.encode (dropRadix (Text.trim input))).filter fun b => !isSeparator b

/-- Reads a name typed in hex. -/
def read (input : Text) : Except Error Bytes :=
  if (digits input).length % 2 = 1 then
    .error (.parse ("Odd number of hex digits: " ++ String.ofList input))
  else
    match pairs? (digits input) with
    | some bytes => .ok bytes
    | none => .error (.parse ("Invalid hex digits in: " ++ String.ofList input))

end WifiNames.Hex
