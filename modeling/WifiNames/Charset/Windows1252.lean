import WifiNames.Basic

namespace WifiNames.Charset.Windows1252

/-!
# Windows-1252 — reading

Every byte is a character.  Outside of `80` to `9F` a byte is its own code point.
-/

/-- The code points of the bytes `80` to `9F`. -/
def middle : List Nat := [
  0x20AC, 0x0081, 0x201A, 0x0192, 0x201E, 0x2026, 0x2020, 0x2021,
  0x02C6, 0x2030, 0x0160, 0x2039, 0x0152, 0x008D, 0x017D, 0x008F,
  0x0090, 0x2018, 0x2019, 0x201C, 0x201D, 0x2022, 0x2013, 0x2014,
  0x02DC, 0x2122, 0x0161, 0x203A, 0x0153, 0x009D, 0x017E, 0x0178]

/-- The character of a byte. -/
def char (b : UInt8) : Char :=
  if 0x80 ≤ b ∧ b ≤ 0x9F then Char.ofNat (middle.getD (b.toNat - 0x80) b.toNat)
  else Char.ofNat b.toNat

/-- The text of a whole input; nothing is rejected. -/
def decode (b : Bytes) : Text :=
  b.map char

end WifiNames.Charset.Windows1252
