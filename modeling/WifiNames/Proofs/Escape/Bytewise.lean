import WifiNames.Proofs.Escape.Round

namespace WifiNames.Escape

open Utf8

/-!
# Escapes — reading byte by byte is safe

An index goes over the bytes of a text with no regard for characters, and still the text is read as its
pieces are: the bytes of a character that are left behind an escaped one are no backslashes, so they are
read one by one until the index is between two characters again.

* `readFrom?_round`, `readFrom?_bytes` — one round, and a run of bytes without a backslash.
* `readFrom?_of_spells`, `readFrom?_of_falls` — the parts of a text.
* `Reads.readFrom?_eq` — **reading byte by byte is reading part by part.**
* `Reaches` — where reading gets to, and with what.
* `IsSafe`, `isSafe_of_reaches` — **every round is safe**, wherever reading gets to.
-/

variable {t before : Text} {i : Nat} {rest : Bytes}

/-! ### The loop -/

theorem readFrom?_end (t : Text) : readFrom? t (length t) = some [] := by
  rw [readFrom?, if_neg (Nat.lt_irrefl _)]

/-- A round adds its byte. -/
theorem readFrom?_round {r : Round} (hr : round? t i = some r) :
    readFrom? t i = (readFrom? t (i + r.width)).map (r.byte :: ·) := by
  -- Behind the end there is no byte to begin a round with.
  have hi : i < length t := by
    rw [← length_encode]
    by_contra hle
    have hnil := List.drop_eq_nil_iff.2 (Nat.le_of_not_lt hle)
    unfold round? at hr
    rw [hnil] at hr
    cases hr
  rw [readFrom?, if_pos hi]
  split
  · rename_i hnone
    rw [hnone] at hr
    cases hr
  · rename_i hsome
    rw [hsome] at hr
    rw [Option.some.inj hr]

/-- Bytes without a backslash are read as they are, also if they begin within a character. -/
theorem readFrom?_bytes {u : Bytes} (h : (encode t).drop i = u ++ rest) (hu : ∀ x ∈ u, x ≠ 0x5C) :
    readFrom? t i = (readFrom? t (i + u.length)).map (u ++ ·) := by
  induction u generalizing i with
  | nil => simp
  | cons x u ih =>
    obtain ⟨hx, hu⟩ := List.forall_mem_cons.1 hu
    have hdrop : (encode t).drop (i + 1) = u ++ rest := by
      rw [← List.drop_drop, h]
      rfl
    rw [readFrom?_round (round?_plain h hx), ih hdrop hu, Option.map_map, List.length_cons,
      Nat.add_right_comm i 1]
    rfl

/-- A byte outside of ASCII is no letter of an escape. -/
theorem namedByte_of_high {d : UInt8} (hd : ¬ d < 0x80) : namedByte d = d := by
  unfold namedByte
  split
  · exact absurd (by decide) hd
  · exact absurd (by decide) hd
  · exact absurd (by decide) hd
  · exact absurd (by decide) hd
  · rfl

/-- A character other than `x` is escaped by its first byte, and its other bytes are no backslashes. -/
theorem exists_namedByte {c : Char} (hc : c ≠ 'x') :
    ∃ d more, String.utf8EncodeChar c = d :: more ∧ d ≠ 0x78 ∧
      Piece.namedBytes c = namedByte d :: more ∧ ∀ x ∈ more, x ≠ 0x5C := by
  rcases Nat.lt_or_ge c.toNat 0x80 with hlow | hhigh
  · -- An ASCII character is its own byte, and the letters are gone through.
    have hascii : c ≠ 'x' → UInt8.ofNat c.toNat ≠ 0x78 ∧
        Piece.namedBytes c = [namedByte (UInt8.ofNat c.toNat)] :=
      ascii_induction c hlow (by decide +kernel)
    obtain ⟨hd, hbytes⟩ := hascii hc
    exact ⟨_, [], utf8EncodeChar_of_lt hlow, hd, hbytes, by simp⟩
  · -- Any other character has no letter, and all of its bytes are high.
    obtain ⟨d, more, hencode⟩ := exists_utf8EncodeChar_eq_cons c
    have hbytes := not_lt_of_mem_utf8EncodeChar hhigh
    rw [hencode, List.forall_mem_cons] at hbytes
    have hletter : ∀ y, (c, y) ∉ letters := by
      intro y hy
      have hall : ∀ p ∈ letters, p.1.toNat < 0x80 := by decide
      exact absurd (hall (c, y) hy) (Nat.not_lt_of_le hhigh)
    refine ⟨d, more, hencode, ne_of_high hbytes.1 (by decide), ?_, fun x hx => ?_⟩
    · rw [namedBytes_of_notMem_letters hletter, hencode, namedByte_of_high hbytes.1]
    · exact ne_of_high (hbytes.2 x hx) (by decide)

/-- A character other than a backslash has no byte that is one. -/
theorem ne_of_mem_utf8EncodeChar {c : Char} (hc : c ≠ '\\') :
    ∀ x ∈ String.utf8EncodeChar c, x ≠ 0x5C := by
  rintro x hx rfl
  exact hc (utf8EncodeChar_inj (utf8EncodeChar_of_mem (by decide) hx))

/-- A round that takes some characters adds its byte to what is read behind them. -/
theorem readFrom?_append {before s t : Text} {r : Round}
    (hr : round? (before ++ (s ++ t)) (length before) = some r) (hwidth : r.width = length s) :
    readFrom? (before ++ (s ++ t)) (length before) =
      (readFrom? (before ++ s ++ t) (length (before ++ s))).map ([r.byte] ++ ·) := by
  rw [length_append, List.append_assoc, ← hwidth]
  exact readFrom?_round hr

/-- A backslash and a character other than `x` are read together, the character byte by byte. -/
theorem readFrom?_named {c : Char} (hc : c ≠ 'x') (before t : Text) :
    readFrom? (before ++ (['\\', c] ++ t)) (length before) =
      (readFrom? (before ++ ['\\', c] ++ t) (length (before ++ ['\\', c]))).map
        (Piece.namedBytes c ++ ·) := by
  obtain ⟨d, more, hencode, hd, hbytes, hmore⟩ := exists_namedByte hc
  -- The round takes the backslash and the first byte of the character, so that the index may be
  -- within it; the other bytes are then read one by one.
  have hdrop : (encode (before ++ (['\\', c] ++ t))).drop (length before) =
      0x5C :: d :: (more ++ encode t) := by
    rw [show ['\\', c] ++ t = '\\' :: c :: t from rfl, drop_backslash, encode_cons, hencode]
    rfl
  have hbehind : (encode (before ++ (['\\', c] ++ t))).drop (length before + 2) = more ++ encode t := by
    rw [← List.drop_drop, hdrop]
    rfl
  have hlength : length (before ++ ['\\', c]) = length before + 2 + more.length := by
    have hsize := String.length_utf8EncodeChar c
    have hbackslash : '\\'.utf8Size = 1 := rfl
    rw [hencode, List.length_cons] at hsize
    rw [length_append, length_cons, length_cons, length, hbackslash]
    omega
  rw [readFrom?_round (round?_named hdrop hd), readFrom?_bytes hbehind hmore, Option.map_map, hbytes,
    hlength, List.append_assoc]
  rfl

/-- A character other than a backslash is read byte by byte. -/
theorem readFrom?_itself {c : Char} (hc : c ≠ '\\') (before t : Text) :
    readFrom? (before ++ ([c] ++ t)) (length before) =
      (readFrom? (before ++ [c] ++ t) (length (before ++ [c]))).map
        (String.utf8EncodeChar c ++ ·) := by
  have hdrop : (encode (before ++ ([c] ++ t))).drop (length before) =
      String.utf8EncodeChar c ++ encode t := by
    rw [drop_length_encode]
    rfl
  rw [readFrom?_bytes hdrop (ne_of_mem_utf8EncodeChar hc), String.length_utf8EncodeChar,
    List.append_assoc, length_append before]
  rfl

/-- Spelled bytes are read, and the index goes on behind their spelling. -/
theorem readFrom?_of_spells {s : Text} {x : Bytes} (hs : Spells s x) (before t : Text) :
    readFrom? (before ++ (s ++ t)) (length before) =
      (readFrom? (before ++ s ++ t) (length (before ++ s))).map (x ++ ·) := by
  cases hs with
  | @hex x h l hh hl =>
    have hdigits : ∀ c ∈ [h, l], Hex.isDigit c = true := by
      simp [Hex.isDigit_of_value? hh, Hex.isDigit_of_value? hl]
    -- Exactly the two digits are counted, whatever comes behind them.
    have hcount : digitCount (encode ([h, l] ++ t)) = length [h, l] := by
      rw [length_of_isDigit hdigits]
      exact digitCount_full (hdigits h (by simp)) (hdigits l (by simp)) t
    have hnumber := Hex.number?_full hh hl
    rw [Hex.join_div_mod] at hnumber
    have hround : round? (before ++ (['\\', 'x', h, l] ++ t)) (length before) =
        some ⟨x, 2 + length [h, l]⟩ := round?_escape hcount (by simp) hnumber
    exact readFrom?_append hround (length_escape [h, l]).symm
  | letter hc =>
    obtain ⟨hx, hbytes⟩ := namedBytes_of_mem_letters hc
    rw [readFrom?_named hx, hbytes]
  | itself hc => exact readFrom?_itself hc before t

/-- So are the escapes that fall short. -/
theorem readFrom?_of_falls {s t : Text} {x : Bytes} (hs : Falls s x t) (before : Text) :
    readFrom? (before ++ (s ++ t)) (length before) =
      (readFrom? (before ++ s ++ t) (length (before ++ s))).map (x ++ ·) := by
  cases hs with
  | @digit h n _ hh hrest =>
    have hdigits : ∀ c ∈ [h], Hex.isDigit c = true := by simp [Hex.isDigit_of_value? hh]
    -- One digit only is counted, since no other one comes behind it.
    have hcount : digitCount (encode ([h] ++ t)) = length [h] := by
      rw [length_of_isDigit hdigits]
      exact digitCount_short (hdigits h (by simp)) hrest
    have hnumber := Hex.number?_short hh
    rw [Hex.join, Nat.mul_zero, Nat.zero_add] at hnumber
    have hround : round? (before ++ (['\\', 'x', h] ++ t)) (length before) =
        some ⟨UInt8.ofNat n, 2 + length [h]⟩ := round?_escape hcount (by simp) hnumber
    exact readFrom?_append hround (length_escape [h]).symm
  | x hrest =>
    exact readFrom?_append (round?_x (drop_backslash before ('x' :: t)) (digitCount_of_noDigit hrest)) rfl
  | other hx hc => rw [readFrom?_named hx, namedBytes_of_notMem_letters hc]
  | lone => exact readFrom?_append (round?_lone (drop_backslash before [])) rfl

/-- **Reading byte by byte** from between two characters on is reading part by part. -/
theorem Reads.readFrom?_eq {t : Text} {b : Bytes} (h : Reads t b) (before : Text) :
    readFrom? (before ++ t) (length before) = some b := by
  induction h generalizing before with
  | nil =>
    rw [List.append_nil, readFrom?_end]
  | @spelled s t x b hs _ ih =>
    rw [readFrom?_of_spells hs, ih]
    rfl
  | @falls s t x b hs _ ih =>
    rw [readFrom?_of_falls hs, ih]
    rfl

/-! ### Every round -/

/-- The reading of a text gets to byte `i`, with some bytes read on the way. -/
inductive Reaches (t : Text) : Nat → Bytes → Prop where
  | start : Reaches t 0 []
  | round {i : Nat} {out : Bytes} {r : Round} (h : Reaches t i out) (hi : i < length t)
    (hr : round? t i = some r) : Reaches t (i + r.width) (out ++ [r.byte])

/-- What holds where the reading of a text gets to, with some bytes read on the way. -/
structure IsSafe (t : Text) (i : Nat) (out : Bytes) : Prop where
  /-- The index is within the text, or at its end. -/
  index_le : i ≤ length t
  /-- No more bytes were read than the index went over. -/
  length_out_le : out.length ≤ i
  /-- At the end, the bytes that were read are what the text stands for. -/
  eq_decode : i = length t → out = decode t
  /-- Before the end there is a round, by which the index grows and stays within the text. -/
  exists_round : i < length t → ∃ r, round? t i = some r ∧ i < i + r.width ∧ i + r.width ≤ length t
  /-- The digits of a byte escape stand in the text between two characters.  They are one or two, and
      the round has the number that they are. -/
  exists_digits : ∀ rest, (encode t).drop i = 0x5C :: 0x78 :: rest → digitCount rest ≠ 0 →
    ∃ digits x, IsSlice t (i + 2) (i + 2 + digitCount rest) digits ∧
      (digits.length = 1 ∨ digits.length = 2) ∧ (∀ c ∈ digits, Hex.isDigit c = true) ∧
      Hex.number? digits = some x ∧ round? t i = some ⟨x, 2 + digitCount rest⟩

/-- A text is read to its end. -/
theorem readFrom?_zero (t : Text) : readFrom? t 0 = some (decode t) :=
  (reads_decode t).readFrom?_eq []

/-- What is read in all is what was read on the way, and what is read from there on. -/
theorem Reaches.readFrom?_eq {out : Bytes} (h : Reaches t i out) :
    (readFrom? t i).map (out ++ ·) = some (decode t) := by
  induction h with
  | start => rw [readFrom?_zero, Option.map_some, List.nil_append]
  | @round i out r _ _ hr ih =>
    rw [readFrom?_round hr, Option.map_map] at ih
    rw [← ih]
    congr 1
    funext b
    simp

/-- **Every round is safe.** -/
theorem Reaches.isSafe {out : Bytes} (h : Reaches t i out) : IsSafe t i out where
  -- Where reading gets to was the end of a round, which stays within the text.
  index_le := by
    cases h with
    | start => exact Nat.zero_le _
    | round _ hi hr =>
      obtain ⟨r, hr', -, hle⟩ := exists_round? hi
      rw [hr] at hr'
      obtain rfl := Option.some.inj hr'
      exact hle
  length_out_le := by
    induction h with
    | start => exact Nat.le_refl 0
    | round _ _ hr ih =>
      have hpos := width_pos hr
      rw [List.length_append, List.length_singleton]
      omega
  -- What was read and what is left to read make up the whole; at the end nothing is left.
  eq_decode := by
    rintro rfl
    have hread := h.readFrom?_eq
    rw [readFrom?_end, Option.map_some, List.append_nil] at hread
    exact Option.some.inj hread
  exists_round := by
    intro hi
    obtain ⟨r, hr, hpos, hle⟩ := exists_round? hi
    exact ⟨r, hr, by omega, hle⟩
  exists_digits := fun _ => exists_round?_digits

/-- From wherever it gets to, reading goes on to the end of the text. -/
theorem Reaches.reaches_length {out : Bytes} (h : Reaches t i out) :
    Reaches t (length t) (decode t) := by
  -- The bytes that are left become fewer with every round.
  generalize hleft : length t - i = left
  induction left using Nat.strongRecOn generalizing i out with
  | ind left ih =>
    rcases Nat.lt_or_ge i (length t) with hi | hi
    · obtain ⟨r, hr, hpos, -⟩ := exists_round? hi
      exact ih (length t - (i + r.width)) (by omega) (h.round hi hr) rfl
    · obtain rfl := Nat.le_antisymm h.isSafe.index_le hi
      rwa [h.isSafe.eq_decode rfl] at h

/-- **Reading is safe.** Reading any text byte by byte does not fail: every round that it gets to is
    safe, it gets to the end, and what it has read there is what the text stands for, which has no more
    bytes than the text. -/
theorem isSafe_of_reaches (t : Text) :
    (∀ i out, Reaches t i out → IsSafe t i out) ∧ Reaches t (length t) (decode t) ∧
      readFrom? t 0 = some (decode t) ∧ (decode t).length ≤ length t := by
  have hend : Reaches t (length t) (decode t) := Reaches.start.reaches_length
  exact ⟨fun _ _ h => h.isSafe, hend, readFrom?_zero t, hend.isSafe.length_out_le⟩

/-- Behind an escaped character of three bytes the index is within that character, and two rounds later
    a byte escape begins. -/
theorem isSafe_of_reaches_of_escaped :
    (Reaches "\\中\\xd6".toList 2 [0xE4] ∧ ¬ IsBoundary "\\中\\xd6".toList 2 ∧
      Reaches "\\中\\xd6".toList 4 [0xE4, 0xB8, 0xAD]) ∧
      IsSafe "\\中\\xd6".toList 2 [0xE4] ∧ IsSafe "\\中\\xd6".toList 4 [0xE4, 0xB8, 0xAD] ∧
      readFrom? "\\中\\xd6".toList 0 = some (decode "\\中\\xd6".toList) := by
  have hfirst : Reaches "\\中\\xd6".toList 2 [0xE4] :=
    Reaches.start.round (r := ⟨0xE4, 2⟩) (by decide) (by decide +kernel)
  have hsecond : Reaches "\\中\\xd6".toList 3 [0xE4, 0xB8] :=
    hfirst.round (r := ⟨0xB8, 1⟩) (by decide) (by decide +kernel)
  have hthird : Reaches "\\中\\xd6".toList 4 [0xE4, 0xB8, 0xAD] :=
    hsecond.round (r := ⟨0xAD, 1⟩) (by decide) (by decide +kernel)
  have hinside : ¬ IsBoundary "\\中\\xd6".toList 2 := by
    rw [← isBoundary_iff]
    decide +kernel
  obtain ⟨hsafe, -, hread, -⟩ := isSafe_of_reaches "\\中\\xd6".toList
  exact ⟨⟨hfirst, hinside, hthird⟩, hsafe 2 _ hfirst, hsafe 4 _ hthird, hread⟩

end WifiNames.Escape
