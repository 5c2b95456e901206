import WifiNames.Basic

namespace WifiNames.Decimal

/-!
# Decimals — reading unsigned integers

* `digits?` — the value of a run of digits in a given base.
* `word?` — a 64-bit number in base ten, as environment variables give it.
-/

/-- The value of a digit in the given base, whose letters may have either case. -/
def digitValue? (base : Nat) (c : Char) : Option Nat :=
  let value :=
    if '0' ≤ c ∧ c ≤ '9' then c.toNat - 0x30
    else if 'a' ≤ c ∧ c ≤ 'z' then c.toNat - 0x57
    else if 'A' ≤ c ∧ c ≤ 'Z' then c.toNat - 0x37
    else base
  if value < base then some value else none

/-- The value of a text that consists of digits, of which there must be one at least. -/
def digits? (base : Nat) (t : Text) : Option Nat :=
  if t.isEmpty then none
  else t.foldlM (fun value c => (digitValue? base c).map (base * value + ·)) 0

/-- A number that fits into 64 bits. -/
def fit? (n : Nat) : Option UInt64 :=
  if n < UInt64.size then some (UInt64.ofNat n) else none

/-- Text without one leading plus sign. -/
def dropPlus : Text → Text
  | '+' :: rest => rest
  | t => t

/-- A 64-bit number in base ten; a plus sign may stand in front of it. -/
def word? (t : Text) : Option UInt64 :=
  (digits? 10 (dropPlus t)).bind fit?

end WifiNames.Decimal
