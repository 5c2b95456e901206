import WifiNames.Proofs.Utf8

namespace WifiNames.Utf8

/-!
# UTF-8 — strict reading undoes encoding

Strict UTF-8 is the encoding of characters one after the other.  `scan` does not know the
encoder: it cuts bytes by the ranges of the standard and computes a character from each cut.

* `IsForm` — one character by the ranges of the standard: no overlong form, no surrogate, nothing
  above U+10FFFF, at most four bytes.
* `isForm_iff` — the forms are the encodings of single characters.
* `low_utf8EncodeChar_iff`, `utf8EncodeChar_of_mem` — ASCII bytes stand for ASCII characters only.
* `scan_encode`, `encode_of_scan` — a text is read back, and whatever is read without a flaw is
  the encoding of what is read.
* `decode?_eq_some_iff` — strict reading is the inverse of `encode`.
-/

/-! ### Ranges -/

/-- A code point that is one keeps its number as a character. -/
theorem toNat_ofNat {n : Nat} (h : n.isValidChar) : (Char.ofNat n).toNat = n := by
  rw [Char.ofNat, dif_pos h]
  rfl

/-- A tail byte lies in `80` to `BF`. -/
theorem isTail_iff {b : UInt8} : isTail b = true ↔ 0x80 ≤ b.toNat ∧ b.toNat ≤ 0xBF := by
  simp only [isTail, Bool.and_eq_true, decide_eq_true_eq, UInt8.le_iff_toNat_le,
    UInt8.reduceToNat]

/-- A second byte after `E0` to `EF` is a tail byte, with a bound of its own after two of them. -/
theorem isSecondOfThree_iff {a b : UInt8} :
    isSecondOfThree a b = true ↔ isTail b = true ∧
      (a.toNat = 0xE0 → 0xA0 ≤ b.toNat) ∧ (a.toNat = 0xED → b.toNat ≤ 0x9F) := by
  simp only [isSecondOfThree, beq_iff_eq, ← UInt8.toNat_inj, UInt8.reduceToNat, isTail_iff]
  split
  · simp only [Bool.and_eq_true, decide_eq_true_eq, UInt8.le_iff_toNat_le, UInt8.reduceToNat]
    omega
  · split
    · simp only [Bool.and_eq_true, decide_eq_true_eq, UInt8.le_iff_toNat_le, UInt8.reduceToNat]
      omega
    · rw [isTail_iff]
      omega

/-- A second byte after `F0` to `F4` is a tail byte, with a bound of its own after two of them. -/
theorem isSecondOfFour_iff {a b : UInt8} :
    isSecondOfFour a b = true ↔ isTail b = true ∧
      (a.toNat = 0xF0 → 0x90 ≤ b.toNat) ∧ (a.toNat = 0xF4 → b.toNat ≤ 0x8F) := by
  simp only [isSecondOfFour, beq_iff_eq, ← UInt8.toNat_inj, UInt8.reduceToNat, isTail_iff]
  split
  · simp only [Bool.and_eq_true, decide_eq_true_eq, UInt8.le_iff_toNat_le, UInt8.reduceToNat]
    omega
  · split
    · simp only [Bool.and_eq_true, decide_eq_true_eq, UInt8.le_iff_toNat_le, UInt8.reduceToNat]
      omega
    · rw [isTail_iff]
      omega

/-! ### Forms -/

/-- The bytes of one character, by the ranges of the standard. -/
inductive IsForm : Bytes → Prop where
  | one {a : UInt8} (ha : a.toNat < 0x80) : IsForm [a]
  | two {a b : UInt8} (ha : 0xC2 ≤ a.toNat ∧ a.toNat ≤ 0xDF) (hb : isTail b = true) :
    IsForm [a, b]
  | three {a b c : UInt8} (ha : 0xE0 ≤ a.toNat ∧ a.toNat ≤ 0xEF)
    (hb : isSecondOfThree a b = true) (hc : isTail c = true) : IsForm [a, b, c]
  | four {a b c d : UInt8} (ha : 0xF0 ≤ a.toNat ∧ a.toNat ≤ 0xF4)
    (hb : isSecondOfFour a b = true) (hc : isTail c = true) (hd : isTail d = true) :
    IsForm [a, b, c, d]

/-- A byte with a value of `80` to `BF` is a tail byte. -/
theorem isTail_ofNat (n : Nat) : isTail (UInt8.ofNat (n % 64 + 0x80)) = true := by
  rw [isTail_iff, UInt8.toNat_ofNat']
  omega

/-- The encoding of a character is a form. -/
theorem isForm_utf8EncodeChar (c : Char) : IsForm (String.utf8EncodeChar c) := by
  fun_cases String.utf8EncodeChar c with
  | case1 v h =>
    refine .one ?_
    rw [UInt8.toNat_ofNat']
    omega
  | case2 v h₁ h₂ =>
    refine .two ?_ (isTail_ofNat _)
    rw [UInt8.toNat_ofNat']
    omega
  | case3 v h₁ h₂ h₃ =>
    -- The surrogates, which `ED` could lead, are no characters.
    have hvalid : v < 0xD800 ∨ 0xDFFF < v ∧ v < 0x110000 := c.valid
    refine .three ?_ ?_ (isTail_ofNat _)
    · rw [UInt8.toNat_ofNat']
      omega
    · rw [isSecondOfThree_iff]
      refine ⟨isTail_ofNat _, ?_⟩
      simp only [UInt8.toNat_ofNat']
      omega
  | case4 v h₁ h₂ h₃ =>
    have hvalid : v < 0xD800 ∨ 0xDFFF < v ∧ v < 0x110000 := c.valid
    refine .four ?_ ?_ (isTail_ofNat _) (isTail_ofNat _)
    · rw [UInt8.toNat_ofNat']
      omega
    · rw [isSecondOfFour_iff]
      refine ⟨isTail_ofNat _, ?_⟩
      simp only [UInt8.toNat_ofNat']
      omega

/-! ### The character of a form -/

/-- An ASCII byte encodes the character with its number. -/
theorem utf8EncodeChar_ofNat {a : UInt8} (ha : a.toNat < 0x80) :
    String.utf8EncodeChar (Char.ofNat a.toNat) = [a] := by
  have hv : (Char.ofNat a.toNat).val.toNat = a.toNat := toNat_ofNat (Or.inl (by omega))
  rw [String.utf8EncodeChar, hv, if_pos (by omega), UInt8.ofNat_toNat]

/-- A two-byte form encodes its character. -/
theorem utf8EncodeChar_join2 {a b : UInt8} (ha : 0xC2 ≤ a.toNat ∧ a.toNat ≤ 0xDF)
    (hb : isTail b = true) : String.utf8EncodeChar (join2 a b) = [a, b] := by
  rw [isTail_iff] at hb
  have hv : (join2 a b).val.toNat = a.toNat % 32 * 64 + b.toNat % 64 :=
    toNat_ofNat (by unfold Nat.isValidChar payload; omega)
  rw [String.utf8EncodeChar, hv, if_neg (by omega), if_pos (by omega)]
  simp only [List.cons.injEq, ← UInt8.toNat_inj, UInt8.toNat_ofNat', and_true]
  omega

/-- A three-byte form encodes its character. -/
theorem utf8EncodeChar_join3 {a b c : UInt8} (ha : 0xE0 ≤ a.toNat ∧ a.toNat ≤ 0xEF)
    (hb : isSecondOfThree a b = true) (hc : isTail c = true) :
    String.utf8EncodeChar (join3 a b c) = [a, b, c] := by
  rw [isSecondOfThree_iff, isTail_iff] at hb
  rw [isTail_iff] at hc
  have hv : (join3 a b c).val.toNat
      = a.toNat % 16 * 4096 + b.toNat % 64 * 64 + c.toNat % 64 :=
    toNat_ofNat (by unfold Nat.isValidChar payload; omega)
  rw [String.utf8EncodeChar, hv, if_neg (by omega), if_neg (by omega), if_pos (by omega)]
  simp only [List.cons.injEq, ← UInt8.toNat_inj, UInt8.toNat_ofNat', and_true]
  omega

/-- A four-byte form encodes its character. -/
theorem utf8EncodeChar_join4 {a b c d : UInt8} (ha : 0xF0 ≤ a.toNat ∧ a.toNat ≤ 0xF4)
    (hb : isSecondOfFour a b = true) (hc : isTail c = true) (hd : isTail d = true) :
    String.utf8EncodeChar (join4 a b c d) = [a, b, c, d] := by
  rw [isSecondOfFour_iff, isTail_iff] at hb
  rw [isTail_iff] at hc hd
  have hv : (join4 a b c d).val.toNat
      = a.toNat % 8 * 262144 + b.toNat % 64 * 4096 + c.toNat % 64 * 64 + d.toNat % 64 :=
    toNat_ofNat (by unfold Nat.isValidChar payload; omega)
  rw [String.utf8EncodeChar, hv, if_neg (by omega), if_neg (by omega), if_neg (by omega)]
  simp only [List.cons.injEq, ← UInt8.toNat_inj, UInt8.toNat_ofNat', and_true]
  omega

/-- A form is the encoding of a character, and is read as that character whatever follows. -/
theorem exists_char_of_isForm {u : Bytes} (hu : IsForm u) :
    ∃ c, String.utf8EncodeChar c = u ∧ ∀ rest, scan (u ++ rest) = some c :: scan rest := by
  cases hu with
  | @one a ha =>
    refine ⟨Char.ofNat a.toNat, utf8EncodeChar_ofNat ha, fun rest => ?_⟩
    rw [List.singleton_append, scan.eq_def]
    simp only [UInt8.lt_iff_toNat_lt, UInt8.reduceToNat, ha, if_true]
  | @two a b ha hb =>
    refine ⟨join2 a b, utf8EncodeChar_join2 ha hb, fun rest => ?_⟩
    have hascii : ¬ a.toNat < 0x80 := by omega
    rw [List.cons_append, scan.eq_def]
    simp only [UInt8.lt_iff_toNat_lt, UInt8.le_iff_toNat_le, UInt8.reduceToNat, hascii, ha, hb,
      List.cons_append, List.nil_append, decide_true, Bool.and_self, if_true, if_false]
  | @three a b c ha hb hc =>
    refine ⟨join3 a b c, utf8EncodeChar_join3 ha hb hc, fun rest => ?_⟩
    have hascii : ¬ a.toNat < 0x80 := by omega
    have htwo : ¬ a.toNat ≤ 0xDF := by omega
    rw [List.cons_append, scan.eq_def]
    simp only [UInt8.lt_iff_toNat_lt, UInt8.le_iff_toNat_le, UInt8.reduceToNat, hascii, htwo, ha,
      hb, hc, List.cons_append, List.nil_append, decide_true, decide_false, Bool.and_self,
      Bool.and_false, Bool.false_eq_true, if_true, if_false]
  | @four a b c d ha hb hc hd =>
    refine ⟨join4 a b c d, utf8EncodeChar_join4 ha hb hc hd, fun rest => ?_⟩
    have hascii : ¬ a.toNat < 0x80 := by omega
    have htwo : ¬ a.toNat ≤ 0xDF := by omega
    have hthree : ¬ a.toNat ≤ 0xEF := by omega
    rw [List.cons_append, scan.eq_def]
    simp only [UInt8.lt_iff_toNat_lt, UInt8.le_iff_toNat_le, UInt8.reduceToNat, hascii, htwo,
      hthree, ha, hb, hc, hd, List.cons_append, List.nil_append, decide_true, decide_false,
      Bool.and_self, Bool.and_false, Bool.false_eq_true, if_true, if_false]

/-- The forms are the encodings of single characters. -/
theorem isForm_iff {u : Bytes} : IsForm u ↔ ∃ c, String.utf8EncodeChar c = u := by
  constructor
  · intro hu
    -- What a form is read as has it for its encoding.
    obtain ⟨c, hc, -⟩ := exists_char_of_isForm hu
    exact ⟨c, hc⟩
  · rintro ⟨c, rfl⟩
    exact isForm_utf8EncodeChar c

/-- Different characters have different encodings. -/
theorem utf8EncodeChar_inj {c d : Char} (h : String.utf8EncodeChar c = String.utf8EncodeChar d) :
    c = d := by
  -- The library reads a character back from its encoding.
  have hc := ByteArray.utf8DecodeChar?_utf8EncodeChar_append (b := .empty) (c := c)
  have hd := ByteArray.utf8DecodeChar?_utf8EncodeChar_append (b := .empty) (c := d)
  rw [h, hd] at hc
  exact (Option.some.inj hc).symm

/-- To look at ASCII characters, it is enough to look at their numbers. -/
@[elab_as_elim]
theorem ascii_induction {motive : Char → Prop} (c : Char) (hc : c.toNat < 0x80)
    (h : ∀ n < 0x80, motive (Char.ofNat n)) : motive c := by
  have hmotive := h c.toNat hc
  rwa [Char.ofNat_toNat] at hmotive

/-- The number of an ASCII character is an ASCII byte. -/
theorem ofNat_lt {c : Char} (hc : c.toNat < 0x80) : UInt8.ofNat c.toNat < 0x80 := by
  rw [UInt8.lt_iff_toNat_lt, UInt8.toNat_ofNat', Nat.mod_eq_of_lt (by omega)]
  exact hc

/-- An ASCII character is encoded as the byte with its number. -/
theorem utf8EncodeChar_of_lt {c : Char} (hc : c.toNat < 0x80) :
    String.utf8EncodeChar c = [UInt8.ofNat c.toNat] := by
  have hencode := utf8EncodeChar_ofNat (UInt8.lt_iff_toNat_lt.1 (ofNat_lt hc))
  rwa [UInt8.toNat_ofNat', Nat.mod_eq_of_lt (by omega), Char.ofNat_toNat] at hencode

/-- A character is encoded in ASCII exactly if it is ASCII. -/
theorem low_utf8EncodeChar_iff {c : Char} :
    (∀ x ∈ String.utf8EncodeChar c, x < 0x80) ↔ c.toNat < 0x80 := by
  constructor
  · intro hlow
    have hform := isForm_utf8EncodeChar c
    generalize hu : String.utf8EncodeChar c = u at hform hlow
    cases hform with
    | @one a ha =>
      rw [← utf8EncodeChar_ofNat ha] at hu
      rw [utf8EncodeChar_inj hu, toNat_ofNat (Or.inl (by omega))]
      exact ha
    -- The lead byte of a longer form is high.
    | two ha | three ha | four ha =>
      have hfirst := hlow _ List.mem_cons_self
      simp only [UInt8.lt_iff_toNat_lt, UInt8.reduceToNat] at hfirst
      omega
  · intro hc
    rw [utf8EncodeChar_of_lt hc, List.forall_mem_singleton]
    exact ofNat_lt hc

/-- A character with an ASCII byte has no other byte. -/
theorem utf8EncodeChar_of_mem {c : Char} {x : UInt8} (hx : x < 0x80)
    (h : x ∈ String.utf8EncodeChar c) : String.utf8EncodeChar c = [x] := by
  have hlow : x.toNat < 0x80 := UInt8.lt_iff_toNat_lt.1 hx
  have htail : ¬ isTail x = true := by
    rw [isTail_iff]
    omega
  have hform := isForm_utf8EncodeChar c
  generalize String.utf8EncodeChar c = u at hform h
  -- All bytes of a longer form are high, the first one by its range and the others as tails.
  cases hform with
  | one ha => rw [List.mem_singleton.1 h]
  | two ha hb =>
    simp only [List.mem_cons, List.not_mem_nil, or_false] at h
    rcases h with rfl | rfl
    · exact absurd hlow (by omega)
    · exact absurd hb htail
  | three ha hb hc =>
    simp only [List.mem_cons, List.not_mem_nil, or_false] at h
    rcases h with rfl | rfl | rfl
    · exact absurd hlow (by omega)
    · exact absurd (isSecondOfThree_iff.1 hb).1 htail
    · exact absurd hc htail
  | four ha hb hc hd =>
    simp only [List.mem_cons, List.not_mem_nil, or_false] at h
    rcases h with rfl | rfl | rfl | rfl
    · exact absurd hlow (by omega)
    · exact absurd (isSecondOfFour_iff.1 hb).1 htail
    · exact absurd hc htail
    · exact absurd hd htail

/-- A character outside of ASCII has no ASCII byte. -/
theorem not_lt_of_mem_utf8EncodeChar {c : Char} (hc : 0x80 ≤ c.toNat) :
    ∀ x ∈ String.utf8EncodeChar c, ¬ x < 0x80 := by
  intro x hmem hx
  have hlow : ∀ y ∈ String.utf8EncodeChar c, y < 0x80 := by
    rw [utf8EncodeChar_of_mem hx hmem, List.forall_mem_singleton]
    exact hx
  have hlt := low_utf8EncodeChar_iff.1 hlow
  omega

/-- A byte outside of ASCII is no ASCII byte. -/
theorem ne_of_high {x y : UInt8} (hx : ¬ x < 0x80) (hy : y < 0x80) : x ≠ y := by
  rintro rfl
  exact hx hy

/-- Every character has a first byte. -/
theorem exists_utf8EncodeChar_eq_cons (c : Char) :
    ∃ x more, String.utf8EncodeChar c = x :: more :=
  List.exists_cons_of_ne_nil String.utf8EncodeChar_ne_nil

/-! ### Whole texts -/

/-- The encoding of a character is read as that character, whatever follows. -/
theorem scan_utf8EncodeChar_append (c : Char) (rest : Bytes) :
    scan (String.utf8EncodeChar c ++ rest) = some c :: scan rest := by
  obtain ⟨d, hd, hscan⟩ := exists_char_of_isForm (isForm_utf8EncodeChar c)
  rw [hscan, utf8EncodeChar_inj hd]

/-- A text is read back from its encoding. -/
theorem scan_encode (t : Text) : scan (encode t) = t.map some := by
  induction t with
  | nil => rfl
  | cons c t ih => rw [encode_cons, scan_utf8EncodeChar_append, ih, List.map_cons]

/-- Bytes that are read without a flaw are the encoding of what is read. -/
theorem encode_of_scan {b : Bytes} {t : Text} (h : scan b = t.map some) : encode t = b := by
  -- Four cases read a character; all others put a gap, which no text has.
  fun_induction scan b generalizing t with
  | case1 =>
    rw [List.map_eq_nil_iff.1 h.symm]
    rfl
  | case2 a rest ha ih =>
    obtain ⟨c, t, rfl, hc, hrest⟩ := List.map_eq_cons_iff.1 h.symm
    obtain rfl := Option.some.inj hc
    rw [encode_cons, utf8EncodeChar_ofNat (UInt8.lt_iff_toNat_lt.1 ha), ih hrest.symm]
    rfl
  | case4 a _ ha b rest hb ih =>
    obtain ⟨c, t, rfl, hc, hrest⟩ := List.map_eq_cons_iff.1 h.symm
    obtain rfl := Option.some.inj hc
    simp only [Bool.and_eq_true, decide_eq_true_eq, UInt8.le_iff_toNat_le, UInt8.reduceToNat] at ha
    rw [encode_cons, utf8EncodeChar_join2 ha hb, ih hrest.symm]
    rfl
  | case8 a _ _ ha b hb c rest hc ih =>
    obtain ⟨x, t, rfl, hx, hrest⟩ := List.map_eq_cons_iff.1 h.symm
    obtain rfl := Option.some.inj hx
    simp only [Bool.and_eq_true, decide_eq_true_eq, UInt8.le_iff_toNat_le, UInt8.reduceToNat] at ha
    rw [encode_cons, utf8EncodeChar_join3 ha hb hc, ih hrest.symm]
    rfl
  | case14 a _ _ _ ha b hb c hc d rest hd ih =>
    obtain ⟨x, t, rfl, hx, hrest⟩ := List.map_eq_cons_iff.1 h.symm
    obtain rfl := Option.some.inj hx
    simp only [Bool.and_eq_true, decide_eq_true_eq, UInt8.le_iff_toNat_le, UInt8.reduceToNat] at ha
    rw [encode_cons, utf8EncodeChar_join4 ha hb hc hd, ih hrest.symm]
    rfl
  | case3 | case5 | case6 | case7 | case9 | case10 | case11 | case12 | case13 | case15 | case16
  | case17 | case18 =>
    obtain ⟨c, t, -, hc, -⟩ := List.map_eq_cons_iff.1 h.symm
    cases hc

/-- A list without a gap is a list of characters. -/
theorem mapM_id_eq_some_iff {l : List (Option Char)} {t : Text} :
    l.mapM id = some t ↔ l = t.map some := by
  induction l generalizing t with
  | nil => cases t <;> simp
  | cons o l ih =>
    cases o with
    | none => cases t <;> simp
    | some c =>
      have hstep : (some c :: l).mapM id = some t ↔ ∃ more, l = more.map some ∧ c :: more = t := by
        simp [Option.bind_eq_some_iff, ih]
      rw [hstep]
      constructor
      · rintro ⟨more, rfl, rfl⟩
        rfl
      · intro h
        obtain ⟨d, more, rfl, hd, hmore⟩ := List.map_eq_cons_iff.1 h.symm
        exact ⟨more, hmore.symm, by rw [Option.some.inj hd]⟩

/-- **Strict reading is the inverse of encoding.** -/
theorem decode?_eq_some_iff {b : Bytes} {t : Text} : decode? b = some t ↔ encode t = b := by
  rw [decode?, mapM_id_eq_some_iff]
  constructor
  · exact encode_of_scan
  · rintro rfl
    exact scan_encode t

/-- Different texts have different encodings. -/
theorem encode_inj {s t : Text} : encode s = encode t ↔ s = t := by
  rw [← decode?_eq_some_iff, decode?_eq_some_iff.2 rfl, Option.some.injEq, eq_comm]

/-- Bytes are strict UTF-8 exactly if they can be read as text. -/
theorem wellFormed_iff {b : Bytes} : WellFormed b ↔ (decode? b).isSome = true := by
  rw [Option.isSome_iff_exists]
  exact exists_congr fun t => decode?_eq_some_iff.symm

/-- Bytes cannot be read as text exactly if they are not strict UTF-8. -/
theorem decode?_eq_none_iff {b : Bytes} : decode? b = none ↔ ¬ WellFormed b := by
  rw [wellFormed_iff, Option.not_isSome_iff_eq_none]

end WifiNames.Utf8
