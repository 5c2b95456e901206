import WifiNames.Proofs.Scan.Run
import WifiNames.Proofs.Utf8.Reading
import WifiNames.Text.Hex

namespace WifiNames.Hex

/-!
# Hex — digits and the bytes that they spell

A byte has two digits, each of which may be read in either case.

* `eq_digit_of_value?`, `value?_digit`, `value?_toUpper_digit` — **the digits of a value** are the one
  that is written for it and that one in uppercase.
* `byteValue?_of_encode` — digits may be looked for among the bytes of a text.
* `toNat_join`, `join_div_mod` — a byte and its two digits.
* `nibbles`, `encode_eq` — what is written for bytes, value by value.
* `pairs?_eq_some_iff` — what is read two by two are the bytes with these digits.
-/

/-! ### Digits -/

theorem isDigit_of_value? {c : Char} {n : Nat} (h : value? c = some n) : isDigit c = true := by
  rw [isDigit, h, Option.isSome_some]

/-- **Digits.** Every digit is the one that is written for its value, in lowercase or in uppercase. -/
theorem eq_digit_of_value? {c : Char} {n : Nat} (h : value? c = some n) :
    n < 16 ∧ (c = digit n ∨ c = (digit n).toUpper) := by
  obtain ⟨-, hhi, -⟩ := toNat_of_isDigit (isDigit_of_value? h)
  -- All digits are ASCII, so the characters that may be one are gone through.
  have hascii : ∀ n ∈ value? c, n < 16 ∧ (c = digit n ∨ c = (digit n).toUpper) :=
    Utf8.ascii_induction c (by omega) (by decide +kernel)
  exact hascii n h

theorem value?_digit : ∀ {n : Nat}, n < 16 → value? (digit n) = some n := by
  decide

theorem value?_toUpper_digit : ∀ {n : Nat}, n < 16 → value? (digit n).toUpper = some n := by
  decide

theorem lt_of_byteValue? {x : UInt8} {n : Nat} (h : byteValue? x = some n) : n < 16 :=
  (eq_digit_of_value? h).1

/-- The byte of an ASCII character has its value. -/
theorem byteValue?_ofNat {c : Char} (hc : c.toNat < 0x80) :
    byteValue? (UInt8.ofNat c.toNat) = value? c := by
  rw [byteValue?, UInt8.toNat_ofNat', Nat.mod_eq_of_lt (by omega), Char.ofNat_toNat]

/-- A byte outside of ASCII is no digit. -/
theorem byteValue?_of_high {x : UInt8} (hx : ¬ x < 0x80) : byteValue? x = none := by
  -- The bytes are gone through by their numbers.
  have hhigh : ∀ k < 0x100, 0x80 ≤ k → byteValue? (UInt8.ofNat k) = none := by decide +kernel
  have hlt := x.toNat_lt
  simp only [UInt8.lt_iff_toNat_lt, UInt8.reduceToNat] at hx
  have hvalue := hhigh x.toNat (by omega) (by omega)
  rwa [UInt8.ofNat_toNat] at hvalue

/-- A character outside of ASCII is no digit. -/
theorem value?_of_high {c : Char} (hc : 0x80 ≤ c.toNat) : value? c = none := by
  refine Option.eq_none_iff_forall_ne_some.2 fun n hn => ?_
  obtain ⟨-, hhi, -⟩ := toNat_of_isDigit (isDigit_of_value? hn)
  omega

/-- **First bytes.** The first byte of a character has the value of the character. -/
theorem byteValue?_of_encode {c : Char} {x : UInt8} {more : Bytes}
    (h : String.utf8EncodeChar c = x :: more) : byteValue? x = value? c := by
  rcases Nat.lt_or_ge c.toNat 0x80 with hlow | hhigh
  · rw [Utf8.utf8EncodeChar_of_lt hlow] at h
    rw [← (List.cons.inj h).1, byteValue?_ofNat hlow]
  · -- Neither the character nor any of its bytes is ASCII, so neither has a value.
    have hx : x ∈ String.utf8EncodeChar c := by
      rw [h]
      exact List.mem_cons_self
    rw [byteValue?_of_high (Utf8.not_lt_of_mem_utf8EncodeChar hhigh x hx), value?_of_high hhigh]

/-! ### Bytes -/

theorem toNat_join {h l : Nat} (hh : h < 16) (hl : l < 16) : (join h l).toNat = 16 * h + l := by
  rw [join, UInt8.toNat_ofNat', Nat.mod_eq_of_lt (by omega)]

/-- A byte is put together from its two digits. -/
theorem join_div_mod (x : UInt8) : join (x.toNat / 16) (x.toNat % 16) = x := by
  rw [join, Nat.div_add_mod, UInt8.ofNat_toNat]

/-- The values of the digits of bytes, two for each. -/
def nibbles (b : Bytes) : List Nat :=
  b.flatMap fun x => [x.toNat / 16, x.toNat % 16]

theorem nibbles_cons (x : UInt8) (b : Bytes) :
    nibbles (x :: b) = x.toNat / 16 :: x.toNat % 16 :: nibbles b := rfl

theorem nibbles_join {h l : Nat} (hh : h < 16) (hl : l < 16) (b : Bytes) :
    nibbles (join h l :: b) = h :: l :: nibbles b := by
  have hdiv : (16 * h + l) / 16 = h := by omega
  have hmod : (16 * h + l) % 16 = l := by omega
  rw [nibbles_cons, toNat_join hh hl, hdiv, hmod]

theorem length_nibbles (b : Bytes) : (nibbles b).length = 2 * b.length := by
  induction b with
  | nil => rfl
  | cons x b ih =>
    rw [nibbles_cons, List.length_cons, List.length_cons, List.length_cons, ih]
    omega

theorem lt_of_mem_nibbles {b : Bytes} : ∀ n ∈ nibbles b, n < 16 := by
  induction b with
  | nil => simp [nibbles]
  | cons x b ih =>
    have hx := x.toNat_lt
    rw [nibbles_cons, List.forall_mem_cons, List.forall_mem_cons]
    exact ⟨by omega, by omega, ih⟩

/-- What is written for bytes are the digits of their values. -/
theorem encode_eq (b : Bytes) : encode b = (nibbles b).map digit := by
  induction b with
  | nil => rfl
  | cons x b ih =>
    rw [nibbles_cons, List.map_cons, List.map_cons, ← ih]
    rfl

theorem pairs?_cons_cons {high low : UInt8} {rest b : Bytes} :
    pairs? (high :: low :: rest) = some b ↔ ∃ h l more, byteValue? high = some h ∧
      byteValue? low = some l ∧ pairs? rest = some more ∧ join h l :: more = b := by
  simp [pairs?, Option.bind_eq_some_iff]

/-- **Pairs.** Digits are read as the bytes that have them. -/
theorem pairs?_eq_some_iff {digits b : Bytes} :
    pairs? digits = some b ↔ digits.map byteValue? = (nibbles b).map some := by
  constructor
  · intro h
    induction digits using pairs?.induct generalizing b with
    | case1 =>
      obtain rfl := Option.some.inj h
      rfl
    | case2 high low rest ih =>
      obtain ⟨h, l, more, hhigh, hlow, hmore, rfl⟩ := pairs?_cons_cons.1 h
      -- Both values are below sixteen, so they are the digits of the byte that they make.
      rw [nibbles_join (lt_of_byteValue? hhigh) (lt_of_byteValue? hlow)]
      simp only [List.map_cons, hhigh, hlow, ih hmore]
    | case3 => cases h
  · intro h
    induction b generalizing digits with
    | nil =>
      obtain rfl := List.map_eq_nil_iff.1 h
      rfl
    | cons x b ih =>
      rw [nibbles_cons, List.map_cons, List.map_cons] at h
      -- Every byte takes two digits off the list, its high one first.
      obtain ⟨high, _, rfl, hhigh, hrest⟩ := List.map_eq_cons_iff.1 h
      obtain ⟨low, rest, rfl, hlow, hmore⟩ := List.map_eq_cons_iff.1 hrest
      refine pairs?_cons_cons.2 ⟨_, _, b, hhigh, hlow, ih hmore, ?_⟩
      rw [join_div_mod]

end WifiNames.Hex
