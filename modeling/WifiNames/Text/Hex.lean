import WifiNames.Text.Utf8

namespace WifiNames.Hex

/-!
# Hex — bytes as hexadecimal digits

Names are opaque bytes, so reports and diagnostics show them in hex.

* `encode` — two lowercase digits for each byte.
* `spaced` — the form of diagnostics: a blank before each pair, at most `shownBytes` pairs.
* `value?` — the value of a digit of either case.
* `pairs?` — reads digits two by two.
-/

/-- The lowercase digit of a number below sixteen. -/
def digit (n : Nat) : Char :=
  if n < 10 then Char.ofNat (0x30 + n) else Char.ofNat (0x57 + n)

/-- The two digits of a byte. -/
def byte (b : UInt8) : Text :=
  [digit (b.toNat / 16), digit (b.toNat % 16)]

/-- Bytes as contiguous lowercase digits. -/
def encode (b : Bytes) : Text :=
  b.flatMap byte

/-- The length limit of a network name; diagnostics show no more bytes than this. -/
def shownBytes : Nat := 32

/-- The first `shownBytes` bytes, each with a blank before its digits. -/
def spaced (b : Bytes) : Text :=
  (b.take shownBytes).flatMap fun x => ' ' :: byte x

/-- The diagnostic line for a name: the tag, the length and the first bytes. -/
def dumpLine (tag : String) (b : Bytes) : String :=
  tag ++ "[len=" ++ toString b.length ++ "] " ++ String.ofList (spaced b)

/-- The value of a hexadecimal digit. -/
def value? (c : Char) : Option Nat :=
  if '0' ≤ c ∧ c ≤ '9' then some (c.toNat - 0x30)
  else if 'a' ≤ c ∧ c ≤ 'f' then some (c.toNat - 0x57)
  else if 'A' ≤ c ∧ c ≤ 'F' then some (c.toNat - 0x37)
  else none

/-- Whether a character is a hexadecimal digit of either case. -/
def isDigit (c : Char) : Bool :=
  (value? c).isSome

/-- The byte with the given digit values. -/
def join (high low : Nat) : UInt8 :=
  UInt8.ofNat (16 * high + low)

/-- The value of a digit given as an ASCII byte; no other byte has one. -/
def byteValue? (b : UInt8) : Option Nat :=
  value? (Char.ofNat b.toNat)

/-- The bytes spelled by pairs of digits, `none` if one is no digit or has no partner. -/
def pairs? : Bytes → Option Bytes
  | [] => some []
  | high :: low :: rest => do
    let h ← byteValue? high
    let l ← byteValue? low
    let more ← pairs? rest
    return join h l :: more
  | [_] => none

end WifiNames.Hex
