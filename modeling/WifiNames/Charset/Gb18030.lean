import WifiNames.Charset.Gb18030.PairTable
import WifiNames.Charset.Gb18030.RangeTable
import WifiNames.Basic

namespace WifiNames.Charset.Gb18030

/-!
# GB18030 — reading

The encoding has characters of one, two and four bytes.  GBK is read in the same way.

* `pair?` — the character of a lead and a trail byte.
* `quad?` — the character of a four-byte code.
* `decode?` — strict reading: any malformed or incomplete character rejects the whole input.
-/

/-- Where a trail byte stands in its row; `none` if it is no trail byte. -/
def column? (trail : UInt8) : Option Nat :=
  if 0x40 ≤ trail ∧ trail ≤ 0x7E then some (trail.toNat - 0x40)
  else if 0x80 ≤ trail ∧ trail ≤ 0xFE then some (trail.toNat - 0x41)
  else none

/-- The character that a lead byte from `81` to `FE` and a trail byte stand for. -/
def pair? (lead trail : UInt8) : Option Char := do
  let column ← column? trail
  let code ← pairCode? ((lead.toNat - 0x81) * cellsPerRow + column)
  return Char.ofNat code

/-- Whether a byte is one of the digits `30` to `39` of a four-byte code. -/
def isDigit (b : UInt8) : Bool :=
  0x30 ≤ b && b ≤ 0x39

/-- Whether a byte begins a longer code: `81` to `FE`. -/
def isLead (b : UInt8) : Bool :=
  0x81 ≤ b && b ≤ 0xFE

/-- The number that a four-byte code stands for. -/
def pointer (a b c d : UInt8) : Nat :=
  (a.toNat - 0x81) * 12600 + (b.toNat - 0x30) * 1260 + (c.toNat - 0x81) * 10 + (d.toNat - 0x30)

/-- The character of a four-byte code whose first two bytes are a lead byte and a digit. -/
def quad? (a b c d : UInt8) : Option Char :=
  if isLead c && isDigit d then (pointerCode? (pointer a b c d)).map Char.ofNat else none

/-- Reads a whole input.  The byte `80` alone stands for the euro sign. -/
def decode? : Bytes → Option Text
  | [] => some []
  | a :: rest =>
    if a < 0x80 then
      (decode? rest).map (Char.ofNat a.toNat :: ·)
    else if a == 0x80 then
      (decode? rest).map ('€' :: ·)
    else if isLead a then
      match rest with
      | [] => none
      | b :: rest =>
        if isDigit b then
          match rest with
          | c :: d :: rest => do
            let char ← quad? a b c d
            let more ← decode? rest
            return char :: more
          | _ => none
        else do
          let char ← pair? a b
          let more ← decode? rest
          return char :: more
    else
      none

end WifiNames.Charset.Gb18030
