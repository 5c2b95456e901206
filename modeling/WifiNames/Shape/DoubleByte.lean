import WifiNames.Basic

namespace WifiNames.Shape

/-!
# Shapes — single bytes and lead/trail pairs

The byte pattern of GBK: a byte below `80` stands alone, and a lead byte is followed by a trail
byte.  A byte's role depends on all the bytes before it, since trail bytes overlap both ASCII
and the lead bytes.

* `Cell` — a single byte or a pair.
* `cells?` — splits a name into cells from its start.
* `isDoubleByte` — the pattern, for names with at least one pair.
-/

/-- Whether a byte begins a pair: `81` to `FE`. -/
def isLead (b : UInt8) : Bool :=
  0x81 ≤ b && b ≤ 0xFE

/-- Whether a byte can end a pair: `40` to `FE` without `7F`. -/
def isTrail (b : UInt8) : Bool :=
  0x40 ≤ b && b ≤ 0xFE && b != 0x7F

/-- What one character of a double-byte name is made of. -/
inductive Cell where
  | single (b : UInt8)
  | pair (lead trail : UInt8)

namespace Cell

/-- The bytes of a cell. -/
def bytes : Cell → Bytes
  | single b => [b]
  | pair l t => [l, t]

/-- Whether a cell is a pair. -/
def isPair : Cell → Bool
  | single _ => false
  | pair .. => true

end Cell

/-- The cells of a name; `none` if a byte fits no cell. -/
def cells? : Bytes → Option (List Cell)
  | [] => some []
  | b :: rest =>
    if isLead b then
      match rest with
      | [] => none
      | t :: rest => if isTrail t then (cells? rest).map (.pair b t :: ·) else none
    else if b < 0x80 then
      (cells? rest).map (.single b :: ·)
    else
      none

/-- Whether a name splits into cells and has a pair among them. -/
def isDoubleByte (b : Bytes) : Bool :=
  match cells? b with
  | some cells => cells.any Cell.isPair
  | none => false

end WifiNames.Shape
