import Mathlib.Data.List.Forall2
import WifiNames.Proofs.Escape
import WifiNames.Proofs.Hex

namespace WifiNames.Escape

/-!
# Spellings — reading escapes undoes printing

A printed name spells its bytes one by one, or a character's bytes by the character, and every byte may
be spelled in several ways.  Any text at all is read, so there are also readings of texts that are no
spellings: an escape that is cut short, or one of a character that needs none.

* `letters` — the bytes that have letters of their own.
* `Spells` — how a byte, or a character's bytes, may be printed.
* `IsSpelling` — texts that are put together from such parts.
* `Falls` — what other escapes stand for, which depends on what comes behind them.
* `Reads` — texts that are put together from both.
* `decode_append_of_spells`, `decode_append_of_falls` — **each part is read for itself.**
* `decode_eq_iff_reads` — **spellings are read as what they spell**, and other texts by the rules for
  escapes that fall short.
-/

/-! ### How bytes are printed -/

/-- The letters of escapes, each with its byte. -/
def letters : List (Char × UInt8) :=
  [('\\', 0x5C), ('"', 0x22), ('n', 0x0A), ('r', 0x0D), ('t', 0x09), ('e', 0x1B)]

/-- The ways to print a byte, or the bytes of a character. -/
inductive Spells : Text → Bytes → Prop where
  /-- Any byte, by its two hex digits, each in either case. -/
  | hex {x : UInt8} {h l : Char} (hh : Hex.value? h = some (x.toNat / 16))
    (hl : Hex.value? l = some (x.toNat % 16)) : Spells ['\\', 'x', h, l] [x]
  /-- A byte that has a letter, by that. -/
  | letter {c : Char} {x : UInt8} (hc : (c, x) ∈ letters) : Spells ['\\', c] [x]
  /-- The bytes of a character other than a backslash, by itself; one byte if it is ASCII. -/
  | itself {c : Char} (hc : c ≠ '\\') : Spells [c] (String.utf8EncodeChar c)

/-- A text that spells bytes part by part. -/
def IsSpelling (t : Text) (b : Bytes) : Prop :=
  ∃ texts parts, List.Forall₂ Spells texts parts ∧ texts.flatten = t ∧ parts.flatten = b

/-! ### What else may be read -/

/-- Whether a text does not go on with a hex digit. -/
def NoDigit (t : Text) : Prop :=
  ∀ c ∈ t.head?, Hex.isDigit c = false

/-- The escapes that spell no byte, with what they stand for in front of a given rest. -/
inductive Falls : Text → Bytes → Text → Prop where
  /-- A single hex digit is the byte with its value. -/
  | digit {h : Char} {n : Nat} {rest : Text} (hh : Hex.value? h = some n) (hrest : NoDigit rest) :
    Falls ['\\', 'x', h] [UInt8.ofNat n] rest
  /-- Without a hex digit, the letter `x` stands for itself. -/
  | x {rest : Text} (hrest : NoDigit rest) : Falls ['\\', 'x'] (String.utf8EncodeChar 'x') rest
  /-- So does a character that is no letter of an escape. -/
  | other {c : Char} {rest : Text} (hx : c ≠ 'x') (hc : ∀ x, (c, x) ∉ letters) :
    Falls ['\\', c] (String.utf8EncodeChar c) rest
  /-- A backslash at the end stands for itself. -/
  | lone : Falls ['\\'] [0x5C] []

/-- A text that is read as bytes, part by part: what spells them, and what else there is. -/
inductive Reads : Text → Bytes → Prop where
  | nil : Reads [] []
  | spelled {s t : Text} {x b : Bytes} (hs : Spells s x) (ht : Reads t b) : Reads (s ++ t) (x ++ b)
  | falls {s t : Text} {x b : Bytes} (hs : Falls s x t) (ht : Reads t b) : Reads (s ++ t) (x ++ b)

/-! ### Letters -/

variable {c h l : Char} {s t : Text} {x b : Bytes}

/-- A letter stands for its byte. -/
theorem namedBytes_of_mem_letters {y : UInt8} (hc : (c, y) ∈ letters) :
    c ≠ 'x' ∧ Piece.namedBytes c = [y] := by
  have hall : ∀ p ∈ letters, p.1 ≠ 'x' ∧ Piece.namedBytes p.1 = [p.2] := by decide +kernel
  exact hall (c, y) hc

/-- Any other character stands for itself. -/
theorem namedBytes_of_notMem_letters (hc : ∀ y, (c, y) ∉ letters) :
    Piece.namedBytes c = String.utf8EncodeChar c := by
  -- Every case but the last is that of a letter.
  unfold Piece.namedBytes
  split
  · exact absurd (by decide) (hc 0x0A)
  · exact absurd (by decide) (hc 0x0D)
  · exact absurd (by decide) (hc 0x09)
  · exact absurd (by decide) (hc 0x1B)
  · rfl

/-! ### Parts -/

/-- **Spelled parts.** What is spelled is read, whatever comes behind it. -/
theorem decode_append_of_spells (hs : Spells s x) (t : Text) : decode (s ++ t) = x ++ decode t := by
  cases hs with
  | @hex x h l hh hl =>
    have hread := decode_full (Hex.isDigit_of_value? hh) (Hex.isDigit_of_value? hl) t
    rw [hh, hl, Option.getD_some, Option.getD_some, Hex.join_div_mod] at hread
    exact hread
  | letter hc =>
    obtain ⟨hx, hbytes⟩ := namedBytes_of_mem_letters hc
    have hread := decode_named hx t
    rw [hbytes] at hread
    exact hread
  | itself hc => exact decode_plain hc t

/-- **Other parts.** An escape that falls short is read for itself, too. -/
theorem decode_append_of_falls (hs : Falls s x t) : decode (s ++ t) = x ++ decode t := by
  cases hs with
  | digit hh hrest =>
    have hread := decode_short (Hex.isDigit_of_value? hh) hrest
    rw [hh, Option.getD_some, Hex.join, Nat.mul_zero, Nat.zero_add] at hread
    exact hread
  | x hrest => exact decode_x hrest
  | other hx hc =>
    have hread := decode_named hx t
    rw [namedBytes_of_notMem_letters hc] at hread
    exact hread
  | lone => rfl

/-- A text is read as what its parts are read as. -/
theorem Reads.decode_eq (h : Reads t b) : decode t = b := by
  induction h with
  | nil => rfl
  | spelled hs _ ih => rw [decode_append_of_spells hs, ih]
  | falls hs _ ih => rw [decode_append_of_falls hs, ih]

/-- A spelling is read part by part. -/
theorem IsSpelling.reads (h : IsSpelling t b) : Reads t b := by
  obtain ⟨texts, parts, hparts, rfl, rfl⟩ := h
  induction hparts with
  | nil => exact .nil
  | cons hs _ ih => exact .spelled hs ih

/-- Two hex digits spell the byte that they are read as. -/
theorem spells_full (hh : Hex.isDigit h = true) (hl : Hex.isDigit l = true) :
    Spells ['\\', 'x', h, l] [Hex.join ((Hex.value? h).getD 0) ((Hex.value? l).getD 0)] := by
  obtain ⟨m, hm⟩ := Option.isSome_iff_exists.1 hh
  obtain ⟨n, hn⟩ := Option.isSome_iff_exists.1 hl
  have hm16 := (Hex.eq_digit_of_value? hm).1
  have hn16 := (Hex.eq_digit_of_value? hn).1
  -- The digits of the joined byte are the two that were given.
  rw [hm, hn, Option.getD_some, Option.getD_some]
  refine .hex ?_ ?_
  · rw [hm, Hex.toNat_join hm16 hn16, Option.some_inj]
    omega
  · rw [hn, Hex.toNat_join hm16 hn16, Option.some_inj]
    omega

/-- One hex digit stands for the byte that it is read as. -/
theorem falls_short (hh : Hex.isDigit h = true) (ht : NoDigit t) :
    Falls ['\\', 'x', h] [Hex.join 0 ((Hex.value? h).getD 0)] t := by
  obtain ⟨n, hn⟩ := Option.isSome_iff_exists.1 hh
  rw [hn, Option.getD_some, Hex.join, Nat.mul_zero, Nat.zero_add]
  exact .digit hn ht

/-- A backslash with a character other than `x` is a letter that spells a byte, or falls short. -/
theorem reads_named (hc : c ≠ 'x') (ht : Reads t b) :
    Reads ('\\' :: c :: t) (Piece.namedBytes c ++ b) := by
  -- The letters spell bytes; all other characters stand for themselves.
  by_cases hletter : ∃ y, (c, y) ∈ letters
  · obtain ⟨y, hy⟩ := hletter
    rw [(namedBytes_of_mem_letters hy).2]
    exact .spelled (.letter hy) ht
  · have hnone : ∀ y, (c, y) ∉ letters := fun y hy => hletter ⟨y, hy⟩
    rw [namedBytes_of_notMem_letters hnone]
    exact .falls (.other hc hnone) ht

/-- **Every text** is read part by part. -/
theorem reads_decode (t : Text) : Reads t (decode t) := by
  unfold decode
  -- One case for each kind of piece: what spells a byte, and the four ways to fall short.
  fun_induction pieces t with
  | case1 => exact .nil
  | case2 => exact .falls .lone .nil
  | case3 => exact .falls (.x (by simp [NoDigit])) .nil
  | case4 h hh => exact .falls (falls_short hh (by simp [NoDigit])) .nil
  | case5 h hh l t hl ih => exact .spelled (spells_full hh hl) ih
  | case6 h hh l t hl ih =>
    exact .falls (falls_short hh (by simpa [NoDigit] using hl)) ih
  | case7 h t hh ih => exact .falls (.x (by simpa [NoDigit] using hh)) ih
  | case8 d t hd ih => exact reads_named hd ih
  | case9 c t hc ih => exact .spelled (.itself hc) ih

/-- Bytes may be spelled by their hex digits alone. -/
theorem isSpelling_hex (b : Bytes) : IsSpelling (b.flatMap fun x => '\\' :: 'x' :: Hex.byte x) b := by
  refine ⟨b.map fun x => '\\' :: 'x' :: Hex.byte x, b.map fun x => [x], ?_, ?_, ?_⟩
  · -- Every byte has two digits of its own.
    rw [List.forall₂_map_left_iff, List.forall₂_map_right_iff, List.forall₂_same]
    intro x _
    have hx := x.toNat_lt
    exact .hex (Hex.value?_digit (by omega)) (Hex.value?_digit (by omega))
  · rw [List.flatMap_def]
  · rw [← List.flatMap_def, List.flatMap_singleton']

/-- **Spellings.** A text that spells bytes is read as these bytes, however each of them is spelled, and
    all bytes can be spelled.  Any text is read as the bytes that its parts stand for, those that spell
    bytes and those that fall short, and as no other bytes. -/
theorem decode_eq_iff_reads (t : Text) (b : Bytes) :
    (IsSpelling t b → decode t = b) ∧
      IsSpelling (b.flatMap fun x => '\\' :: 'x' :: Hex.byte x) b ∧
      (decode t = b ↔ Reads t b) := by
  refine ⟨fun h => h.reads.decode_eq, isSpelling_hex b, ?_, Reads.decode_eq⟩
  rintro rfl
  exact reads_decode t

/-- Two hex digits in front of another one, an escaped backslash in front of `x41`, a character of three
    bytes, and a letter. -/
theorem decode_eq_iff_reads_of_mixed :
    IsSpelling "\\xD61\\\\x41中\\e".toList
        [0xD6, 0x31, 0x5C, 0x78, 0x34, 0x31, 0xE4, 0xB8, 0xAD, 0x1B] ∧
      decode "\\xD61\\\\x41中\\e".toList =
        [0xD6, 0x31, 0x5C, 0x78, 0x34, 0x31, 0xE4, 0xB8, 0xAD, 0x1B] := by
  have hparts : List.Forall₂ Spells
      [['\\', 'x', 'D', '6'], ['1'], ['\\', '\\'], ['x'], ['4'], ['1'], ['中'], ['\\', 'e']]
      [[0xD6], [0x31], [0x5C], [0x78], [0x34], [0x31], [0xE4, 0xB8, 0xAD], [0x1B]] :=
    .cons (.hex (by decide) (by decide)) <| .cons (.itself (by decide)) <|
      .cons (.letter (by decide)) <| .cons (.itself (by decide)) <| .cons (.itself (by decide)) <|
      .cons (.itself (by decide)) <| .cons (.itself (by decide)) <| .cons (.letter (by decide)) .nil
  have hspelling : IsSpelling "\\xD61\\\\x41中\\e".toList
      [0xD6, 0x31, 0x5C, 0x78, 0x34, 0x31, 0xE4, 0xB8, 0xAD, 0x1B] :=
    ⟨_, _, hparts, by decide +kernel, by decide +kernel⟩
  exact ⟨hspelling, (decode_eq_iff_reads _ _).1 hspelling⟩

end WifiNames.Escape
