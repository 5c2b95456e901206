import WifiNames.Proofs.Cut

namespace WifiNames

open Converter

/-!
# GB18030 — reading code by code

The reader takes codes of one, two and four bytes, one after the other.  A zero byte is a code of
its own, and no other code has it or stands for NUL; so the cut before the first NUL can be made
before the name is read.

* `Charset.Gb18030.isHighChar_of_pointerCode?` — what the four-byte codes stand for.
* `Charset.Gb18030.IsCode` — the codes with their characters.
* `Charset.Gb18030.decode?_eq_some_iff` — **an input is read as a text exactly if it consists of the
  codes of its characters.**
* `Charset.Gb18030.IsCode.zero_cases` — where zero bytes and NULs come from.
* `Charset.Gb18030.decode?_beforeZero` — the cut.
* `toUtf8_beforeZero` — what the cut means for converters.
-/

namespace Charset.Gb18030

/-! ### Four-byte codes -/

/-- Whether a code point is a character outside of ASCII. -/
def IsHighChar (code : Nat) : Prop :=
  0x80 ≤ code ∧ code.isValidChar

/-- Whether the range that starts at `range` stays within such characters up to pointer `stop`. -/
def fits (range : Nat × Nat) (stop : Nat) : Bool :=
  let last := range.2 + (stop - range.1)
  Nat.ble 0x80 range.2 && (Nat.ble last 0xD800 || Nat.ble 0xE000 range.2 && Nat.ble last 0x110000)

/-- Whether ranges come in order, each of them fits up to the next one, and the last one up to the
    end of the plane. -/
def allFit (range : Nat × Nat) : List (Nat × Nat) → Bool
  | [] => fits range (lastBmpPointer + 1)
  | next :: rest => Nat.ble range.1 next.1 && fits range next.1 && allFit next rest

theorem allFit_bmpRanges : allFit (0, 0x80) bmpRanges = true := by decide +kernel

/-- A pointer in a range that fits stands for a character. -/
theorem isHighChar_of_fits {range : Nat × Nat} {stop p : Nat} (h : fits range stop = true)
    (hlo : range.1 ≤ p) (hhi : p < stop) : IsHighChar (range.2 + (p - range.1)) := by
  -- A range is within the characters before the surrogates, or within those after them.
  simp only [fits, Bool.and_eq_true, Bool.or_eq_true, Nat.ble_eq] at h
  unfold IsHighChar Nat.isValidChar
  omega

/-- Ranges that come later start later. -/
theorem le_of_allFit {range : Nat × Nat} {rest : List (Nat × Nat)} (h : allFit range rest = true) :
    ∀ next ∈ rest, range.1 ≤ next.1 := by
  induction rest generalizing range with
  | nil => simp
  | cons next rest ih =>
    simp only [allFit, Bool.and_eq_true, Nat.ble_eq] at h
    obtain ⟨⟨hle, -⟩, hrest⟩ := h
    intro x hx
    rcases List.mem_cons.1 hx with rfl | hx
    · exact hle
    · exact Nat.le_trans hle (ih hrest x hx)

/-- The range that a search for pointer `p` ends with, if it is at `range` now. -/
def searchRange (p : Nat) (range : Nat × Nat) (rest : List (Nat × Nat)) : Nat × Nat :=
  rest.foldl (fun best next => if next.1 ≤ p then next else best) range

/-- A search stays where it is if all other ranges start later. -/
theorem searchRange_of_lt {p : Nat} {range : Nat × Nat} {rest : List (Nat × Nat)}
    (h : ∀ next ∈ rest, p < next.1) : searchRange p range rest = range := by
  induction rest with
  | nil => rfl
  | cons next rest ih =>
    obtain ⟨hnext, hrest⟩ := List.forall_mem_cons.1 h
    show searchRange p (if next.1 ≤ p then next else range) rest = range
    rw [if_neg (by omega), ih hrest]

theorem rangeOf_eq (p : Nat) : rangeOf p = searchRange p (0, 0x80) bmpRanges := rfl

/-- In ranges that fit, a search ends with one where the pointer stands for a character. -/
theorem isHighChar_of_allFit {p : Nat} {range : Nat × Nat} {rest : List (Nat × Nat)}
    (h : allFit range rest = true) (hlo : range.1 ≤ p) (hhi : p ≤ lastBmpPointer) :
    IsHighChar ((searchRange p range rest).2 + (p - (searchRange p range rest).1)) := by
  induction rest generalizing range with
  | nil => exact isHighChar_of_fits h hlo (Nat.lt_succ_of_le hhi)
  | cons next rest ih =>
    have hall := h
    simp only [allFit, Bool.and_eq_true, Nat.ble_eq] at h
    obtain ⟨⟨-, hfits⟩, hrest⟩ := h
    -- The search goes on as long as the next range starts at the pointer or before it.
    by_cases hp : next.1 ≤ p
    · have hstep : searchRange p range (next :: rest) = searchRange p next rest := by
        show searchRange p (if next.1 ≤ p then next else range) rest = _
        rw [if_pos hp]
      rw [hstep]
      exact ih hrest hp
    · have hlater : ∀ x ∈ next :: rest, p < x.1 := by
        intro x hx
        rcases List.mem_cons.1 hx with rfl | hx
        · omega
        · have hle := le_of_allFit hrest x hx
          omega
      rw [searchRange_of_lt hlater]
      exact isHighChar_of_fits hfits hlo (by omega)

/-- **Four-byte codes** stand for characters outside of ASCII. -/
theorem isHighChar_of_pointerCode? {p code : Nat} (h : pointerCode? p = some code) :
    IsHighChar code := by
  rw [pointerCode?] at h
  -- The basic plane is searched by ranges; the other planes are numbered without gaps.
  by_cases hbmp : p ≤ lastBmpPointer
  · rw [if_pos hbmp, rangeOf_eq] at h
    rw [← Option.some.inj h]
    exact isHighChar_of_allFit allFit_bmpRanges (Nat.zero_le p) hbmp
  · rw [if_neg hbmp] at h
    by_cases hrest : firstSupplementaryPointer ≤ p ∧ p ≤ lastSupplementaryPointer
    · rw [if_pos hrest] at h
      rw [← Option.some.inj h]
      unfold firstSupplementaryPointer lastSupplementaryPointer at hrest
      unfold IsHighChar Nat.isValidChar firstSupplementaryPointer
      omega
    · rw [if_neg hrest] at h
      cases h

/-! ### Codes -/

/-- A code and the character that it stands for. -/
inductive IsCode : Bytes → Char → Prop where
  | ascii {a : UInt8} (ha : a < 0x80) : IsCode [a] (Char.ofNat a.toNat)
  | euro : IsCode [0x80] '€'
  | pair {a b : UInt8} {c : Char} (ha : isLead a = true) (hb : isDigit b = false)
    (hc : pair? a b = some c) : IsCode [a, b] c
  | quad {a b c d : UInt8} {char : Char} (ha : isLead a = true) (hb : isDigit b = true)
    (hchar : quad? a b c d = some char) : IsCode [a, b, c, d] char

/-- **One code.** A code is read as its character, whatever follows. -/
theorem IsCode.decode?_append {code : Bytes} {c : Char} (h : IsCode code c) (rest : Bytes) :
    decode? (code ++ rest) = (decode? rest).map (c :: ·) := by
  -- A lead byte is neither ASCII nor the lone byte of the euro sign, which are tried first.
  have hhigh : ∀ {a : UInt8}, isLead a = true → ¬ a < 0x80 ∧ (a == 0x80) = false := by
    intro a ha
    refine ⟨UInt8.not_lt.2 (Shape.le_of_isLead ha), ?_⟩
    rw [beq_eq_false_iff_ne]
    rintro rfl
    exact absurd ha (by decide)
  cases h with
  | ascii ha =>
    rw [List.singleton_append, decode?.eq_def]
    simp only [if_pos ha]
  | euro =>
    rw [List.singleton_append, decode?.eq_def]
    rfl
  | pair ha hb hc =>
    obtain ⟨hlow, heuro⟩ := hhigh ha
    rw [List.cons_append, List.singleton_append, decode?.eq_def]
    simp only [hlow, heuro, ha, hb, hc]
    cases decode? rest <;> rfl
  | quad ha hb hchar =>
    obtain ⟨hlow, heuro⟩ := hhigh ha
    rw [List.cons_append, List.cons_append, List.cons_append, List.singleton_append,
      decode?.eq_def]
    simp only [hlow, heuro, ha, hb, hchar]
    cases decode? rest <;> rfl

/-- What is read consists of codes. -/
theorem exists_codes_of_decode? {b : Bytes} {text : Text} (h : decode? b = some text) :
    ∃ codes : List Bytes, codes.flatten = b ∧ List.Forall₂ IsCode codes text := by
  -- The cases that go on are those of the four kinds of codes; the other ones fail.
  fun_induction decode? b generalizing text with
  | case1 =>
    cases h
    exact ⟨[], rfl, .nil⟩
  | case2 a rest ha ih =>
    obtain ⟨more, hmore, rfl⟩ := Option.map_eq_some_iff.1 h
    obtain ⟨codes, rfl, hcodes⟩ := ih hmore
    exact ⟨[a] :: codes, rfl, .cons (.ascii ha) hcodes⟩
  | case3 a rest _ ha ih =>
    obtain ⟨more, hmore, rfl⟩ := Option.map_eq_some_iff.1 h
    obtain ⟨codes, rfl, hcodes⟩ := ih hmore
    rw [beq_iff_eq.1 ha]
    exact ⟨[0x80] :: codes, rfl, .cons .euro hcodes⟩
  | case5 a _ _ ha b hb c d rest ih =>
    obtain ⟨char, hchar, h⟩ := Option.bind_eq_some_iff.1 h
    obtain ⟨more, hmore, h⟩ := Option.bind_eq_some_iff.1 h
    cases h
    obtain ⟨codes, rfl, hcodes⟩ := ih hmore
    exact ⟨[a, b, c, d] :: codes, rfl, .cons (.quad ha hb hchar) hcodes⟩
  | case7 a _ _ ha b rest hb ih =>
    obtain ⟨char, hchar, h⟩ := Option.bind_eq_some_iff.1 h
    obtain ⟨more, hmore, h⟩ := Option.bind_eq_some_iff.1 h
    cases h
    obtain ⟨codes, rfl, hcodes⟩ := ih hmore
    exact ⟨[a, b] :: codes, rfl, .cons (.pair ha (Bool.eq_false_iff.2 hb) hchar) hcodes⟩
  | case4 | case6 | case8 => cases h

/-- **Code by code.** An input is read as a text exactly if it consists of the codes of its
    characters. -/
theorem decode?_eq_some_iff {b : Bytes} {text : Text} :
    decode? b = some text ↔ ∃ codes : List Bytes, codes.flatten = b ∧
      List.Forall₂ IsCode codes text := by
  constructor
  · exact exists_codes_of_decode?
  · rintro ⟨codes, rfl, hcodes⟩
    induction hcodes with
    | nil => rfl
    | cons hcode _ ih => rw [List.flatten_cons, hcode.decode?_append, ih, Option.map_some]

/-! ### Zero bytes -/

/-- The bytes that have a column in the table are the trail bytes. -/
theorem isTrail_of_column? {t : UInt8} {column : Nat} (h : column? t = some column) :
    Shape.isTrail t = true := by
  simp only [column?, UInt8.le_iff_toNat_le, UInt8.reduceToNat] at h
  simp only [Shape.isTrail, Bool.and_eq_true, decide_eq_true_eq, bne_iff_ne, ne_eq,
    UInt8.le_iff_toNat_le, ← UInt8.toNat_inj, UInt8.reduceToNat]
  split at h
  · omega
  · split at h
    · omega
    · cases h

/-- A pair that is read has a trail byte and stands for a character outside of ASCII. -/
theorem of_pair? {a b : UInt8} {c : Char} (ha : isLead a = true) (hc : pair? a b = some c) :
    Shape.isTrail b = true ∧ 0x80 ≤ c.toNat := by
  obtain ⟨column, hcolumn, -⟩ := Option.bind_eq_some_iff.1 hc
  -- Only trail bytes have a column, so the pair has a cell of the checked table.
  have htrail := isTrail_of_column? hcolumn
  obtain ⟨-, code, -, -, hpair, hcode, hhigh, -⟩ := exists_cell ha htrail
  have hchar : Char.ofNat code = c := Option.some.inj (hpair.symm.trans hc)
  rw [← hchar, hcode]
  exact ⟨htrail, hhigh⟩

/-- A four-byte code that is read goes on with a lead byte and a digit, and stands for a character
    outside of ASCII. -/
theorem of_quad? {a b c d : UInt8} {char : Char} (h : quad? a b c d = some char) :
    isLead c = true ∧ isDigit d = true ∧ 0x80 ≤ char.toNat := by
  unfold quad? at h
  split at h
  · rename_i hcd
    obtain ⟨hc, hd⟩ := Bool.and_eq_true_iff.1 hcd
    obtain ⟨code, hcode, rfl⟩ := Option.map_eq_some_iff.1 h
    obtain ⟨hhigh, hvalid⟩ := isHighChar_of_pointerCode? hcode
    rw [Utf8.toNat_ofNat hvalid]
    exact ⟨hc, hd, hhigh⟩
  · cases h

/-- A character outside of ASCII is not NUL. -/
theorem ne_nul_of_le {c : Char} (h : 0x80 ≤ c.toNat) : c ≠ '\x00' := by
  rintro rfl
  exact absurd h (by decide)

/-- **Zero bytes.** A zero byte is a code of its own and stands for NUL.  No other code has it, and
    no other code stands for NUL. -/
theorem IsCode.zero_cases {code : Bytes} {c : Char} (h : IsCode code c) :
    code = [0] ∧ c = '\x00' ∨ 0 ∉ code ∧ c ≠ '\x00' := by
  -- None of the classes of bytes in longer codes has the zero byte.
  have hlead : isLead 0 = false := rfl
  have hdigit : isDigit 0 = false := rfl
  have htrail : Shape.isTrail 0 = false := rfl
  cases h with
  | @ascii a ha =>
    -- An ASCII code stands for NUL only if it is the zero byte.
    have hchar : (Char.ofNat a.toNat).toNat = a.toNat :=
      Utf8.toNat_ofNat (Or.inl (by have hmax := a.toNat_lt; omega))
    by_cases hzero : a = 0
    · subst hzero
      exact Or.inl ⟨rfl, rfl⟩
    · refine Or.inr ⟨by simpa using Ne.symm hzero, ?_⟩
      intro hnul
      rw [hnul] at hchar
      exact hzero (UInt8.toNat_inj.1 hchar.symm)
  | euro => exact Or.inr ⟨by decide, by decide⟩
  | pair ha hb hc =>
    obtain ⟨hb', hhigh⟩ := of_pair? ha hc
    refine Or.inr ⟨?_, ne_nul_of_le hhigh⟩
    intro hmem
    simp only [List.mem_cons, List.not_mem_nil, or_false] at hmem
    rcases hmem with rfl | rfl
    · rw [hlead] at ha
      cases ha
    · rw [htrail] at hb'
      cases hb'
  | quad ha hb hchar =>
    obtain ⟨hc, hd, hhigh⟩ := of_quad? hchar
    refine Or.inr ⟨?_, ne_nul_of_le hhigh⟩
    intro hmem
    simp only [List.mem_cons, List.not_mem_nil, or_false] at hmem
    -- Each of the four bytes is a lead byte or a digit.
    rcases hmem with rfl | rfl | rfl | rfl
    · rw [hlead] at ha
      cases ha
    · rw [hdigit] at hb
      cases hb
    · rw [hlead] at hc
      cases hc
    · rw [hdigit] at hd
      cases hd

/-- **The cut.** What comes before the first zero byte is read as what comes before the first
    NUL. -/
theorem decode?_beforeZero {b : Bytes} {text : Text} (h : decode? b = some text) :
    decode? (beforeZero b) = some (beforeNul text) := by
  obtain ⟨codes, rfl, hcodes⟩ := exists_codes_of_decode? h
  clear h
  induction hcodes with
  | nil => rfl
  | @cons code c codes text hcode _ ih =>
    rw [List.flatten_cons]
    rcases hcode.zero_cases with ⟨rfl, rfl⟩ | ⟨hzero, hnul⟩
    · -- The input and the text both end here.
      rfl
    · -- The code is kept on both sides: its bytes before the zero byte, its character before the NUL.
      have hpass : ∀ x ∈ code, (x != 0) = true := by
        intro x hx
        exact bne_iff_ne.2 fun heq => hzero (heq ▸ hx)
      have hbytes : beforeZero (code ++ codes.flatten) = code ++ beforeZero codes.flatten :=
        List.takeWhile_append_of_pos hpass
      have htext : beforeNul (c :: text) = c :: beforeNul text :=
        List.takeWhile_cons_of_pos (bne_iff_ne.2 hnul)
      rw [hbytes, htext, hcode.decode?_append, ih, Option.map_some]

end Charset.Gb18030

/-! ### Converters -/

namespace Converter

/-- To cut once is enough. -/
theorem beforeNul_beforeNul (t : Text) : beforeNul (beforeNul t) = beforeNul t := by
  -- No NUL is left to cut at.
  have hall : ∀ c ∈ beforeNul t, (c != '\x00') = true := by
    intro c hc
    exact List.mem_takeWhile_imp (p := (· != '\x00')) hc
  exact List.takeWhile_eq_self_iff.2 hall

theorem shown_beforeNul (c : Converter) (t : Text) : c.shown (beforeNul t) = c.shown t := by
  rw [shown, shown, beforeNul_beforeNul]

end Converter

/-- **Cutting first.** In the charsets of the GBK family no code of several bytes has a zero byte or
    stands for NUL, and an input is read as a text exactly if it consists of the codes of its
    characters.  So a name that is converted can be cut before its first zero byte, and is converted
    to the same all the same. -/
theorem toUtf8_beforeZero {charset : Charset} (hfamily : charset.IsGbkFamily) :
    (∀ code c, Charset.Gb18030.IsCode code c → 2 ≤ code.length → 0 ∉ code ∧ c ≠ '\x00') ∧
    (∀ b text, charset.decode? b = some text ↔ ∃ codes : List Bytes, codes.flatten = b ∧
      List.Forall₂ Charset.Gb18030.IsCode codes text) ∧
    ∀ converter : Converter, Charset.ofLabel? converter.charset = some charset → ∀ b u,
      (converter.toUtf8 b).value = .ok u → (converter.toUtf8 (beforeZero b)).value = .ok u := by
  refine ⟨?_, ?_, ?_⟩
  · intro code c hcode hlong
    rcases hcode.zero_cases with ⟨rfl, -⟩ | hzero
    · exact absurd hlong (by decide)
    · exact hzero
  · intro b text
    rw [Charset.decode?_of_isGbkFamily hfamily]
    exact Charset.Gb18030.decode?_eq_some_iff
  · -- What is read of the cut name is the cut text, which the converter would cut anyway.
    intro converter hlabel b u hu
    rw [Converter.value_toUtf8, hlabel] at hu ⊢
    simp only [Charset.decode?_of_isGbkFamily hfamily] at hu ⊢
    cases hdecode : Charset.Gb18030.decode? b with
    | none =>
      rw [hdecode] at hu
      cases hu
    | some text =>
      rw [hdecode] at hu
      rw [Charset.Gb18030.decode?_beforeZero hdecode]
      show Except.ok (Utf8.encode (converter.shown (Converter.beforeNul text))) = .ok u
      rw [Converter.shown_beforeNul]
      exact hu

/-- A pair, a four-byte code, a zero byte and another pair, for a converter that has room for the
    first two characters. -/
theorem toUtf8_beforeZero_of_quad :
    let converter : Converter := ⟨"gbk", 7⟩
    let b : Bytes := [0xD6, 0xD0, 0x94, 0x39, 0xFC, 0x36, 0x00, 0xB9, 0xFA]
    Charset.gbk.IsGbkFamily ∧ Charset.ofLabel? converter.charset = some .gbk ∧
      (converter.toUtf8 b).value = .ok (Utf8.encode ['中', '😀']) ∧
      (converter.toUtf8 [0xD6, 0xD0, 0x94, 0x39, 0xFC, 0x36]).value
        = .ok (Utf8.encode ['中', '😀']) := by
  intro converter b
  have hfamily : Charset.gbk.IsGbkFamily := Or.inl rfl
  have hlabel : Charset.ofLabel? "gbk" = some .gbk := by rfl
  have hb : (converter.toUtf8 b).value = .ok (Utf8.encode ['中', '😀']) := by decide +kernel
  obtain ⟨-, -, hcut⟩ := toUtf8_beforeZero hfamily
  exact ⟨hfamily, hlabel, hb, hcut converter hlabel b _ hb⟩

end WifiNames
