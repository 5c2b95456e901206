import WifiNames.Basic

namespace WifiNames.Shape

/-!
# Shapes — lead bytes followed by continuation bytes

The byte pattern of UTF-8, with the historical five- and six-byte forms and without a look at
the values that the bytes stand for.

* `tailLength?` — how many continuation bytes a lead byte announces.
* `completes` — a walk along the bytes that counts pending continuation bytes.
* `isMultiByte` — the pattern, for names that are not plain ASCII.
-/

/-- How many continuation bytes must follow a lead byte; `none` if the byte leads nothing. -/
def tailLength? (lead : UInt8) : Option Nat :=
  if lead < 0xC0 then none
  else if lead < 0xE0 then some 1
  else if lead < 0xF0 then some 2
  else if lead < 0xF8 then some 3
  else if lead == 0xFC || lead == 0xFD then some 5
  else some 4

/-- Whether a byte has the form `10xxxxxx`. -/
def isContinuation (b : UInt8) : Bool :=
  b &&& 0xC0 == 0x80

/-- Whether bytes begin with the given number of continuation bytes and go on in whole units. -/
def completes : Nat → Bytes → Bool
  | 0, [] => true
  | _ + 1, [] => false
  | 0, b :: rest =>
    if b < 0x80 then
      completes 0 rest
    else
      match tailLength? b with
      | some n => completes n rest
      | none => false
  | n + 1, b :: rest => isContinuation b && completes n rest

/-- Whether any byte lies outside of ASCII. -/
def hasHighByte (b : Bytes) : Bool :=
  b.any (0x80 ≤ ·)

/-- Whether a name follows the multi-byte pattern and is not plain ASCII.  Plain ASCII is left
    out because it says nothing about the encoding. -/
def isMultiByte (b : Bytes) : Bool :=
  completes 0 b && hasHighByte b

end WifiNames.Shape
