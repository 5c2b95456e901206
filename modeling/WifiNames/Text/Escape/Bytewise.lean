import WifiNames.Text.Decimal
import WifiNames.Text.Hex

namespace WifiNames

/-!
# Escapes — reading a text byte by byte

Escapes can be read without looking at characters.  An index goes over the bytes of a text, and each
round adds one byte to what was read.  Behind a backslash in front of a character of several bytes, the
index goes on inside that character.  Only the digits of a byte escape are cut out as text, and to cut a
text fails inside a character.

* `Utf8.cut?` — a part of a text, if it can be cut out.
* `Hex.number?` — a byte given as a hexadecimal number.
* `Round`, `round?` — what is read at one byte of a text.
* `readFrom?` — what is read from there on.
-/

/-- The text between the bytes `start` and `stop`, if these are in order and both fall between
    characters or at an end. -/
def Utf8.cut? (start stop : Nat) (t : Text) : Option Text :=
  if start ≤ stop && isBoundary t start && isBoundary t stop then some (slice start stop t) else none

/-- A number that fits into a byte. -/
def Hex.fit? (n : Nat) : Option UInt8 :=
  if n < UInt8.size then some (UInt8.ofNat n) else none

/-- A byte given as a hexadecimal number; a plus sign may stand in front of it. -/
def Hex.number? (t : Text) : Option UInt8 :=
  (Decimal.digits? 16 (Decimal.dropPlus t)).bind fit?

namespace Escape

/-- One round: the byte that is read, and how many bytes of the text it takes. -/
structure Round where
  byte : UInt8
  width : Nat
  deriving DecidableEq

/-- The byte for a backslash and another byte.  Line feed, carriage return, tab and escape have letters
    of their own, and any other byte stands for itself. -/
def namedByte (b : UInt8) : UInt8 :=
  match b with
  | 0x6E => 0x0A
  | 0x72 => 0x0D
  | 0x74 => 0x09
  | 0x65 => 0x1B
  | b => b

/-- How many hex digits come first, at most two. -/
def digitCount (b : Bytes) : Nat :=
  ((b.take 2).takeWhile fun x => (Hex.byteValue? x).isSome).length

/-- The round at byte `i` of a text; `none` behind its end, or if its digits cannot be cut out.  Digits
    that are no number would count as zero. -/
def round? (t : Text) (i : Nat) : Option Round :=
  match (Utf8.encode t).drop i with
  | [] => none
  | [b] => some ⟨b, 1⟩
  | b :: d :: rest =>
    if b ≠ 0x5C then some ⟨b, 1⟩
    else if d ≠ 0x78 then some ⟨namedByte d, 2⟩
    else if digitCount rest = 0 then some ⟨d, 2⟩
    else
      (Utf8.cut? (i + 2) (i + 2 + digitCount rest) t).map fun digits =>
        ⟨(Hex.number? digits).getD 0, 2 + digitCount rest⟩

/-- Every round takes a byte of the text. -/
theorem width_pos {t : Text} {i : Nat} {r : Round} (h : round? t i = some r) : 0 < r.width := by
  unfold round? at h
  split at h
  · cases h
  · obtain rfl := Option.some.inj h
    exact Nat.one_pos
  · split at h
    · obtain rfl := Option.some.inj h
      exact Nat.one_pos
    · split at h
      · obtain rfl := Option.some.inj h
        exact Nat.two_pos
      · split at h
        · obtain rfl := Option.some.inj h
          exact Nat.two_pos
        · obtain ⟨digits, -, rfl⟩ := Option.map_eq_some_iff.1 h
          exact Nat.add_pos_left Nat.two_pos _

/-- What a text is read as from byte `i` on, round by round; `none` if there is one that fails. -/
def readFrom? (t : Text) (i : Nat) : Option Bytes :=
  if i < Utf8.length t then
    match _h : round? t i with
    | none => none
    | some r => (readFrom? t (i + r.width)).map (r.byte :: ·)
  else
    some []
termination_by Utf8.length t - i
decreasing_by
  have hpos := width_pos _h
  omega

end Escape

end WifiNames
