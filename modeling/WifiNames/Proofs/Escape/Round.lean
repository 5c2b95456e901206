import WifiNames.Proofs.Escape.Spelling
import WifiNames.Proofs.Utf8.Ascii
import WifiNames.Proofs.Utf8.Boundary
import WifiNames.Text.Escape.Bytewise

namespace WifiNames

/-!
# Escapes — one round of reading byte by byte

A round may begin within a character, but it cuts the text only behind a backslash and an `x`, and
around hex digits.  These are ASCII bytes, so both ends of the cut fall between characters.

* `Utf8.cut?_eq_some_iff` — what is cut out of a text stands in it.
* `Hex.number?_short`, `Hex.number?_full` — one or two digits are a number.
* `digitCount_of_noDigit`, `digitCount_short`, `digitCount_full` — how many digits are counted.
* `round?_plain`, `round?_lone`, `round?_named`, `round?_x`, `round?_digits` — the rounds.
* `round?_escape`, `length_escape` — the round of a byte escape, and what it takes.
* `exists_round?_digits` — **the digits of a byte escape** can be cut out, and are a number.
* `exists_round?` — **no round fails.**
-/

namespace Utf8

/-- What is cut out of a text stands in it. -/
theorem cut?_eq_some_iff {start stop : Nat} {t part : Text} :
    cut? start stop t = some part ↔ IsSlice t start stop part := by
  rw [isSlice_iff, ← isBoundary_iff, ← isBoundary_iff, cut?]
  split
  · rename_i h
    simp only [Bool.and_eq_true, decide_eq_true_eq] at h
    simp [h]
  · rename_i h
    simp only [Bool.and_eq_true, decide_eq_true_eq] at h
    simp only [reduceCtorEq, false_iff]
    exact fun hcut => h ⟨⟨hcut.1, hcut.2.1⟩, hcut.2.2.1⟩

end Utf8

/-! ### Numbers -/

namespace Hex

/-- A digit has the same value among those of all bases. -/
theorem digitValue?_of_value? {c : Char} {n : Nat} (h : value? c = some n) :
    Decimal.digitValue? 16 c = some n ∧ c ≠ '+' := by
  -- The sixteen digits are gone through in either case.
  have hdigits : ∀ n < 16, (Decimal.digitValue? 16 (digit n) = some n ∧ digit n ≠ '+') ∧
      Decimal.digitValue? 16 (digit n).toUpper = some n ∧ (digit n).toUpper ≠ '+' := by decide +kernel
  obtain ⟨hn, rfl | rfl⟩ := eq_digit_of_value? h
  · exact (hdigits n hn).1
  · exact (hdigits n hn).2

theorem number?_short {h : Char} {n : Nat} (hh : value? h = some n) :
    number? [h] = some (join 0 n) := by
  obtain ⟨hvalue, hplus⟩ := digitValue?_of_value? hh
  have hn := (eq_digit_of_value? hh).1
  have hsize : n < UInt8.size := by rw [UInt8.size]; omega
  rw [number?, Decimal.dropPlus]
  · simp [Decimal.digits?, hvalue, fit?, hsize, join]
  · rintro _ ⟨⟩
    exact hplus rfl

theorem number?_full {h l : Char} {m n : Nat} (hh : value? h = some m) (hl : value? l = some n) :
    number? [h, l] = some (join m n) := by
  obtain ⟨hhigh, hplus⟩ := digitValue?_of_value? hh
  obtain ⟨hlow, -⟩ := digitValue?_of_value? hl
  have hm := (eq_digit_of_value? hh).1
  have hn := (eq_digit_of_value? hl).1
  have hsize : 16 * m + n < UInt8.size := by rw [UInt8.size]; omega
  rw [number?, Decimal.dropPlus]
  · simp [Decimal.digits?, hhigh, hlow, fit?, hsize, join]
  · rintro _ ⟨⟩
    exact hplus rfl

end Hex

namespace Escape

open Utf8

/-! ### Digits -/

/-- A digit has one byte, with its value. -/
theorem exists_encode_digit {h : Char} {n : Nat} (hh : Hex.value? h = some n) (t : Text) :
    ∃ x, encode (h :: t) = x :: encode t ∧ Hex.byteValue? x = some n := by
  obtain ⟨-, hhi, -⟩ := Hex.toNat_of_isDigit (Hex.isDigit_of_value? hh)
  refine ⟨UInt8.ofNat h.toNat, ?_, ?_⟩
  · rw [encode_cons, utf8EncodeChar_of_lt (by omega)]
    rfl
  · rw [Hex.byteValue?_ofNat (by omega), hh]

/-- The first byte of a text that begins with no digit is none. -/
theorem byteValue?_of_noDigit {t : Text} (ht : NoDigit t) :
    ∀ x ∈ (encode t).head?, Hex.byteValue? x = none := by
  intro x hx
  cases t with
  | nil => cases hx
  | cons c t =>
    have hc : Hex.isDigit c = false := ht c rfl
    -- A character that is no digit may have several bytes; the first one tells.
    obtain ⟨y, more, hencode⟩ := exists_utf8EncodeChar_eq_cons c
    rw [encode_cons, hencode, List.cons_append, List.head?_cons] at hx
    obtain rfl := Option.some.inj hx
    rw [Hex.byteValue?_of_encode hencode]
    simpa [Hex.isDigit] using hc

theorem digitCount_of_noDigit {t : Text} (ht : NoDigit t) : digitCount (encode t) = 0 := by
  have hhead := byteValue?_of_noDigit ht
  cases hencode : encode t with
  | nil => rfl
  | cons x more =>
    rw [hencode] at hhead
    simp [digitCount, hhead x rfl]

theorem digitCount_short {h : Char} {t : Text} (hh : Hex.isDigit h = true) (ht : NoDigit t) :
    digitCount (encode (h :: t)) = 1 := by
  obtain ⟨n, hn⟩ := Option.isSome_iff_exists.1 hh
  obtain ⟨x, hencode, hx⟩ := exists_encode_digit hn t
  have hhead := byteValue?_of_noDigit ht
  rw [hencode]
  cases hrest : encode t with
  | nil => simp [digitCount, hx]
  | cons y more =>
    rw [hrest] at hhead
    simp [digitCount, hx, hhead y rfl]

theorem digitCount_full {h l : Char} (hh : Hex.isDigit h = true) (hl : Hex.isDigit l = true)
    (t : Text) : digitCount (encode (h :: l :: t)) = 2 := by
  obtain ⟨m, hm⟩ := Option.isSome_iff_exists.1 hh
  obtain ⟨n, hn⟩ := Option.isSome_iff_exists.1 hl
  obtain ⟨x, hhigh, hx⟩ := exists_encode_digit hm (l :: t)
  obtain ⟨y, hlow, hy⟩ := exists_encode_digit hn t
  rw [hhigh, hlow]
  simp [digitCount, hx, hy]

/-- A text begins with no digit, or with a digit. -/
theorem noDigit_or (t : Text) :
    NoDigit t ∨ ∃ h rest, t = h :: rest ∧ Hex.isDigit h = true := by
  cases t with
  | nil => exact Or.inl (by simp [NoDigit])
  | cons c t =>
    cases hc : Hex.isDigit c with
    | false => exact Or.inl (by simpa [NoDigit] using hc)
    | true => exact Or.inr ⟨c, t, rfl, hc⟩

/-- Digits have one byte each. -/
theorem length_of_isDigit {digits : Text} (h : ∀ c ∈ digits, Hex.isDigit c = true) :
    length digits = digits.length := by
  induction digits with
  | nil => rfl
  | cons c digits ih =>
    obtain ⟨hc, hdigits⟩ := List.forall_mem_cons.1 h
    rw [length_cons, Hex.utf8Size_of_isDigit hc, ih hdigits, List.length_cons, Nat.add_comm]

/-- **Digits.** What is counted in the bytes are one or two hex digits of the text, which are a number. -/
theorem exists_digits {t : Text} (ht : digitCount (encode t) ≠ 0) :
    ∃ digits rest x, t = digits ++ rest ∧ digitCount (encode t) = digits.length ∧
      (digits.length = 1 ∨ digits.length = 2) ∧ (∀ c ∈ digits, Hex.isDigit c = true) ∧
      Hex.number? digits = some x := by
  rcases noDigit_or t with hnone | ⟨h, rest, rfl, hh⟩
  · exact absurd (digitCount_of_noDigit hnone) ht
  · obtain ⟨m, hm⟩ := Option.isSome_iff_exists.1 hh
    -- Digits are counted up to two, whatever comes after the second one.
    rcases noDigit_or rest with hnone | ⟨l, rest, rfl, hl⟩
    · exact ⟨[h], rest, _, rfl, digitCount_short hh hnone, Or.inl rfl, by simpa using hh,
        Hex.number?_short hm⟩
    · obtain ⟨n, hn⟩ := Option.isSome_iff_exists.1 hl
      exact ⟨[h, l], rest, _, rfl, digitCount_full hh hl rest, Or.inr rfl, by simp [hh, hl],
        Hex.number?_full hm hn⟩

/-! ### Rounds -/

variable {t before : Text} {i : Nat} {b d : UInt8} {rest : Bytes}

theorem round?_plain (h : (encode t).drop i = b :: rest) (hb : b ≠ 0x5C) :
    round? t i = some ⟨b, 1⟩ := by
  unfold round?
  rw [h]
  cases rest <;> simp [hb]

theorem round?_lone (h : (encode t).drop i = [0x5C]) : round? t i = some ⟨0x5C, 1⟩ := by
  unfold round?
  rw [h]

theorem round?_named (h : (encode t).drop i = 0x5C :: d :: rest) (hd : d ≠ 0x78) :
    round? t i = some ⟨namedByte d, 2⟩ := by
  unfold round?
  rw [h]
  simp [hd]

theorem round?_x (h : (encode t).drop i = 0x5C :: 0x78 :: rest) (hrest : digitCount rest = 0) :
    round? t i = some ⟨0x78, 2⟩ := by
  unfold round?
  rw [h]
  simp [hrest]

/-- The round of a byte escape, if its digits can be cut out. -/
theorem round?_digits {digits : Text} {x : UInt8} (h : (encode t).drop i = 0x5C :: 0x78 :: rest)
    (hrest : digitCount rest ≠ 0) (hcut : IsSlice t (i + 2) (i + 2 + digitCount rest) digits)
    (hnumber : Hex.number? digits = some x) : round? t i = some ⟨x, 2 + digitCount rest⟩ := by
  unfold round?
  rw [h]
  simp [hrest, cut?_eq_some_iff.2 hcut, hnumber]

/-- Where a backslash and an `x` stand in the bytes, there they stand in the text. -/
theorem exists_of_drop_escape (h : (encode t).drop i = 0x5C :: 0x78 :: rest) :
    ∃ before after, t = before ++ '\\' :: 'x' :: after ∧ length before = i ∧ encode after = rest := by
  -- A backslash is no part of another character, so the index is between two characters.
  obtain ⟨before, behind, rfl, rfl⟩ := isBoundary_of_drop_encode h (by decide)
  rw [drop_length_encode] at h
  obtain ⟨c, more, rfl, hc, hmore⟩ := exists_of_encode h (by decide)
  obtain ⟨e, after, rfl, he, hafter⟩ := exists_of_encode hmore (by decide)
  obtain rfl : c = '\\' := utf8EncodeChar_inj hc
  obtain rfl : e = 'x' := utf8EncodeChar_inj he
  exact ⟨before, after, rfl, rfl, hafter⟩

/-- What comes behind a backslash and an `x` stands two bytes behind the backslash. -/
theorem isSlice_behind_escape (before digits after : Text) :
    IsSlice (before ++ '\\' :: 'x' :: (digits ++ after)) (length before + 2)
      (length before + 2 + length digits) digits := by
  have hlength : length (before ++ ['\\', 'x']) = length before + 2 := length_append before _
  exact ⟨before ++ ['\\', 'x'], after, by simp, hlength, by rw [length_append, hlength]⟩

/-- What a backslash in a text is followed by in its bytes. -/
theorem drop_backslash (before rest : Text) :
    (encode (before ++ '\\' :: rest)).drop (length before) = 0x5C :: encode rest := by
  rw [drop_length_encode]
  rfl

theorem length_escape (digits : Text) : length ('\\' :: 'x' :: digits) = 2 + length digits := by
  have hsizes : '\\'.utf8Size = 1 ∧ 'x'.utf8Size = 1 := ⟨rfl, rfl⟩
  rw [length_cons, length_cons, hsizes.1, hsizes.2, ← Nat.add_assoc]

/-- The round of a byte escape with the digits that come first. -/
theorem round?_escape {before digits after : Text} {x : UInt8}
    (hcount : digitCount (encode (digits ++ after)) = length digits) (hne : digits ≠ [])
    (hnumber : Hex.number? digits = some x) :
    round? (before ++ '\\' :: 'x' :: (digits ++ after)) (length before) =
      some ⟨x, 2 + length digits⟩ := by
  have hrest : digitCount (encode (digits ++ after)) ≠ 0 := by
    rwa [hcount, Ne, length_eq_zero_iff]
  rw [← hcount]
  refine round?_digits (drop_backslash before _) hrest ?_ hnumber
  rw [hcount]
  exact isSlice_behind_escape before digits after

/-- **Byte escapes.** The digits of one can be cut out, wherever it is come upon, and they are a number
    of one or two digits. -/
theorem exists_round?_digits (h : (encode t).drop i = 0x5C :: 0x78 :: rest)
    (hrest : digitCount rest ≠ 0) :
    ∃ digits x, IsSlice t (i + 2) (i + 2 + digitCount rest) digits ∧
      (digits.length = 1 ∨ digits.length = 2) ∧ (∀ c ∈ digits, Hex.isDigit c = true) ∧
      Hex.number? digits = some x ∧ round? t i = some ⟨x, 2 + digitCount rest⟩ := by
  obtain ⟨before, behind, rfl, rfl, rfl⟩ := exists_of_drop_escape h
  obtain ⟨digits, after, x, rfl, hcount, htwo, hall, hnumber⟩ := exists_digits hrest
  -- Digits have one byte each: as many bytes are cut out as digits were counted.
  have hslice : IsSlice (before ++ '\\' :: 'x' :: (digits ++ after)) (length before + 2)
      (length before + 2 + digitCount (encode (digits ++ after))) digits := by
    rw [hcount, ← length_of_isDigit hall]
    exact isSlice_behind_escape before digits after
  exact ⟨digits, x, hslice, htwo, hall, hnumber, round?_digits h hrest hslice hnumber⟩

/-- A slice ends within its text. -/
theorem stop_le_length {line part : Text} {start stop : Nat} (h : IsSlice line start stop part) :
    stop ≤ length line := by
  obtain ⟨upto, after, rfl, -, rfl⟩ := h
  simp only [length_append]
  omega

/-- **No round fails.** At every byte of a text there is a round, which takes a byte at least and does
    not go beyond the end. -/
theorem exists_round? (hi : i < length t) :
    ∃ r, round? t i = some r ∧ 0 < r.width ∧ i + r.width ≤ length t := by
  suffices hround : ∃ r, round? t i = some r ∧ i + r.width ≤ length t by
    obtain ⟨r, hr, hle⟩ := hround
    exact ⟨r, hr, width_pos hr, hle⟩
  have hlen : ((encode t).drop i).length = length t - i := by rw [List.length_drop, length_encode]
  -- A round looks at two bytes only: a backslash or not, and an `x` behind it or not.
  cases hdrop : (encode t).drop i with
  | nil =>
    rw [hdrop, List.length_nil] at hlen
    omega
  | cons b rest =>
    by_cases hb : b = 0x5C
    · subst hb
      cases rest with
      | nil => exact ⟨_, round?_lone hdrop, hi⟩
      | cons d rest =>
        rw [hdrop, List.length_cons, List.length_cons] at hlen
        by_cases hd : d = 0x78
        · subst hd
          by_cases hcount : digitCount rest = 0
          · exact ⟨_, round?_x hdrop hcount, by show i + 2 ≤ length t; omega⟩
          · obtain ⟨digits, x, hslice, -, -, -, hround⟩ := exists_round?_digits hdrop hcount
            exact ⟨_, hround, by rw [← Nat.add_assoc]; exact stop_le_length hslice⟩
        · exact ⟨_, round?_named hdrop hd, by show i + 2 ≤ length t; omega⟩
    · exact ⟨_, round?_plain hdrop hb, hi⟩

end Escape

end WifiNames
