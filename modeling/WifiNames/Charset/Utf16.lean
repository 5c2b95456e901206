import WifiNames.Basic

namespace WifiNames.Charset.Utf16

/-!
# UTF-16 — reading

Two bytes form a unit.  A unit outside of the surrogates is a character, and a high surrogate
followed by a low one is a character of the supplementary planes.

* `units?` — the units of a run of bytes, `none` if a byte is left over.
* `chars?` — the text of a run of units, `none` if a surrogate stands alone.
-/

/-- Which byte of a unit comes first. -/
inductive Order where
  | littleEndian
  | bigEndian

/-- The unit that two consecutive bytes form. -/
def Order.unit : Order → UInt8 → UInt8 → Nat
  | .littleEndian, a, b => b.toNat * 256 + a.toNat
  | .bigEndian, a, b => a.toNat * 256 + b.toNat

/-- The units of a run of bytes. -/
def units? (order : Order) : Bytes → Option (List Nat)
  | [] => some []
  | [_] => none
  | a :: b :: rest => (units? order rest).map (order.unit a b :: ·)

/-- Whether a unit is the first half of a surrogate pair. -/
def isHigh (u : Nat) : Bool :=
  0xD800 ≤ u && u ≤ 0xDBFF

/-- Whether a unit is the second half of a surrogate pair. -/
def isLow (u : Nat) : Bool :=
  0xDC00 ≤ u && u ≤ 0xDFFF

/-- The character of a surrogate pair. -/
def join (high low : Nat) : Char :=
  Char.ofNat (0x10000 + (high - 0xD800) * 1024 + (low - 0xDC00))

/-- The text of a run of units. -/
def chars? : List Nat → Option Text
  | [] => some []
  | u :: rest =>
    if isHigh u then
      match rest with
      | [] => none
      | v :: rest => if isLow v then (chars? rest).map (join u v :: ·) else none
    else if isLow u then
      none
    else
      (chars? rest).map (Char.ofNat u :: ·)

/-- Strict reading of a whole input. -/
def decode? (order : Order) (b : Bytes) : Option Text :=
  (units? order b).bind chars?

end WifiNames.Charset.Utf16
