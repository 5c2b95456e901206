import Mathlib.Data.List.Forall2
import WifiNames.Charset.Gb18030
import WifiNames.Proofs.Shape

namespace WifiNames.Charset.Gb18030

/-!
# GB18030 — reading names of double-byte shape

The classifier and the reader cut a name in the same places: the reader's four-byte codes need a
digit where a cell has a trail byte, and the byte `80`, which the reader knows, is in no cell.

* `exists_pairCode` — every cell of the two-byte table holds a character of the Basic
  Multilingual Plane outside of ASCII.
* `Reads` — the character that a cell is read as.
* `decode?_bytes_append` — a valid cell is read as one character, whatever follows.
* `decode?_flatMap_bytes` — hence cells are read one by one.
* `length_le_of_reads` — the text has at most three bytes for two bytes of the name.
* `mem_iff_of_reads` — which control characters a text has.
* `low_encode_iff_of_reads`, `encode_of_reads` — which names are read as ASCII.
-/

/-! ### The two-byte table -/

/-- Whether a code point is a character outside of ASCII, provided that it has at most sixteen
    bits.  The comparisons are the ones that are fast on literals. -/
def isPairCode (code : Nat) : Bool :=
  Nat.ble 0x80 code && (Nat.blt code 0xD800 || Nat.blt 0xDFFF code)

/-- Whether the last `k` cells of a word hold such code points. -/
def wordHolds : Nat → Nat → Bool
  | 0, _ => true
  | k + 1, word => isPairCode (word % 65536) && wordHolds k (word >>> 16)

theorem size_pairWords : pairWords.size = 1260 := by decide +kernel

/-- The check of the whole table. -/
theorem all_pairWords : pairWords.toList.all (wordHolds cellsPerWord) = true := by
  decide +kernel

/-- What a checked word says about the cell with `i` cells after it. -/
theorem isPairCode_of_wordHolds {k word i : Nat} (h : wordHolds k word = true) (hi : i < k) :
    isPairCode ((word >>> (16 * i)) % 65536) = true := by
  induction k generalizing word i with
  | zero => exact absurd hi (Nat.not_lt_zero i)
  | succ k ih =>
    rw [wordHolds, Bool.and_eq_true] at h
    cases i with
    | zero => exact h.1
    | succ i =>
      -- To drop one cell more is to drop one first.
      have hshift : word >>> (16 * (i + 1)) = word >>> 16 >>> (16 * i) := by
        rw [← Nat.shiftRight_add]
        congr 1
        omega
      rw [hshift]
      exact ih h.2 (Nat.lt_of_succ_lt_succ hi)

/-- Every cell of the table holds a code point. -/
theorem exists_pairCode {n : Nat} (hn : n < 126 * cellsPerRow) :
    ∃ code, pairCode? n = some code ∧ isPairCode code = true ∧ code < 0x10000 := by
  have hcells : cellsPerWord = 19 := rfl
  have hrow : cellsPerRow = 190 := rfl
  have hword : n / cellsPerWord < pairWords.size := by
    rw [size_pairWords, hcells]
    omega
  -- The whole table is checked once, word by word; a cell is then read out of its word.
  have hholds : wordHolds cellsPerWord pairWords[n / cellsPerWord] = true :=
    List.all_eq_true.1 all_pairWords _ (Array.getElem_mem_toList hword)
  refine ⟨_, by rw [pairCode?, Array.getElem?_eq_getElem hword]; rfl, ?_, Nat.mod_lt _ (by decide)⟩
  refine isPairCode_of_wordHolds hholds ?_
  rw [hcells]
  omega

/-! ### Characters of cells -/

/-- The character that a cell is read as: a single byte as the ASCII character of that number, a
    pair as its character in the table. -/
def Reads : Shape.Cell → Char → Prop
  | .single b, c => c.toNat = b.toNat
  | .pair l t, c => pair? l t = some c ∧ 0x80 ≤ c.toNat ∧ c.toNat < 0x10000

/-- A trail byte has a column in the table. -/
theorem exists_column {t : UInt8} (h : Shape.isTrail t = true) :
    ∃ column, column? t = some column ∧ column < cellsPerRow := by
  have hrow : cellsPerRow = 190 := rfl
  simp only [Shape.isTrail, Bool.and_eq_true, decide_eq_true_eq, bne_iff_ne, ne_eq,
    UInt8.le_iff_toNat_le, ← UInt8.toNat_inj, UInt8.reduceToNat] at h
  simp only [column?, UInt8.le_iff_toNat_le, UInt8.reduceToNat, hrow]
  obtain ⟨⟨hlo, hhi⟩, hne⟩ := h
  -- The columns leave out the byte `7F`, so those after it are numbered one less.
  by_cases hgap : t.toNat ≤ 0x7E
  · exact ⟨t.toNat - 0x40, if_pos ⟨hlo, hgap⟩, by omega⟩
  · refine ⟨t.toNat - 0x41, ?_, by omega⟩
    rw [if_neg (by omega), if_pos ⟨by omega, hhi⟩]

/-- The number of the cell of a lead and a trail byte. -/
def cell? (lead trail : UInt8) : Option Nat :=
  (column? trail).map ((lead.toNat - 0x81) * cellsPerRow + ·)

/-- A pair has a cell, and its character is the one with the code point in that cell. -/
theorem exists_cell {l t : UInt8} (hl : Shape.isLead l = true) (ht : Shape.isTrail t = true) :
    ∃ n code, cell? l t = some n ∧ pairCode? n = some code ∧ pair? l t = some (Char.ofNat code) ∧
      (Char.ofNat code).toNat = code ∧ 0x80 ≤ code ∧ code < 0x10000 := by
  obtain ⟨column, hcolumn, hlt⟩ := exists_column ht
  have hrow : cellsPerRow = 190 := rfl
  have hcell : (l.toNat - 0x81) * cellsPerRow + column < 126 * cellsPerRow := by
    simp only [Shape.isLead, Bool.and_eq_true, decide_eq_true_eq, UInt8.le_iff_toNat_le,
      UInt8.reduceToNat] at hl
    rw [hrow] at hlt ⊢
    omega
  obtain ⟨code, hcode, hpair, hmax⟩ := exists_pairCode hcell
  simp only [isPairCode, Bool.and_eq_true, Bool.or_eq_true, Nat.blt_eq, Nat.ble_eq] at hpair
  -- The table holds no surrogates, so its numbers are characters.
  have hvalid : code.isValidChar := by
    unfold Nat.isValidChar
    omega
  refine ⟨_, code, ?_, hcode, ?_, Utf8.toNat_ofNat hvalid, hpair.1, hmax⟩
  · rw [cell?, hcolumn, Option.map_some]
  · rw [pair?, hcolumn]
    simp [hcode]

/-- A pair has a character. -/
theorem exists_reads_pair {l t : UInt8} (hl : Shape.isLead l = true)
    (ht : Shape.isTrail t = true) : ∃ c, Reads (.pair l t) c := by
  obtain ⟨n, code, -, -, hpair, hcode, hlo, hhi⟩ := exists_cell hl ht
  refine ⟨Char.ofNat code, hpair, ?_, ?_⟩
  · rwa [hcode]
  · rwa [hcode]

/-- Every valid cell is read as some character. -/
theorem exists_reads {cell : Shape.Cell} (h : cell.IsValid) : ∃ c, Reads cell c := by
  cases cell with
  | single b =>
    have hb : b.toNat < 0x80 := UInt8.lt_iff_toNat_lt.1 h
    exact ⟨Char.ofNat b.toNat, Utf8.toNat_ofNat (Or.inl (by omega))⟩
  | pair l t => exact exists_reads_pair h.1 h.2

/-! ### Cells one by one -/

/-- **Same cuts.** A valid cell is read as one character, whatever follows. -/
theorem decode?_bytes_append {cell : Shape.Cell} {c : Char} (hvalid : cell.IsValid)
    (hreads : Reads cell c) (rest : Bytes) :
    decode? (cell.bytes ++ rest) = (decode? rest).map (c :: ·) := by
  cases cell with
  | single b =>
    have hchar : Char.ofNat b.toNat = c := by
      rw [← show c.toNat = b.toNat from hreads, Char.ofNat_toNat]
    rw [Shape.Cell.bytes, List.singleton_append, decode?.eq_def]
    simp only [if_pos (show b < 0x80 from hvalid), hchar]
  | pair l t =>
    obtain ⟨hl, ht⟩ := hvalid
    -- A trail byte is no digit, so the reader does not take the pair for half of a four-byte code.
    have hdigit : isDigit t = false := by
      simp only [Shape.isTrail, Bool.and_eq_true, decide_eq_true_eq, UInt8.le_iff_toNat_le,
        UInt8.reduceToNat] at ht
      simp only [isDigit, Bool.and_eq_false_iff, decide_eq_false_iff_not, UInt8.le_iff_toNat_le,
        UInt8.reduceToNat]
      omega
    have hhigh : ¬ l < 0x80 := UInt8.not_lt.2 (Shape.le_of_isLead hl)
    have heuro : (l == 0x80) = false := by
      rw [beq_eq_false_iff_ne]
      rintro rfl
      exact absurd hl (by decide)
    rw [Shape.Cell.bytes, List.cons_append, List.singleton_append, decode?.eq_def]
    simp only [hhigh, heuro, hdigit, show isLead l = true from hl, hreads.1]
    cases decode? rest <;> rfl

/-- A valid cell on its own is read as its character. -/
theorem decode?_bytes {cell : Shape.Cell} {c : Char} (hvalid : cell.IsValid)
    (hreads : Reads cell c) : decode? cell.bytes = some [c] := by
  have h := decode?_bytes_append hvalid hreads []
  rwa [List.append_nil] at h

/-- Valid cells are read one by one, each as its character. -/
theorem decode?_flatMap_bytes {cells : List Shape.Cell} (hvalid : ∀ cell ∈ cells, cell.IsValid) :
    ∃ text, decode? (cells.flatMap Shape.Cell.bytes) = some text ∧
      List.Forall₂ Reads cells text := by
  induction cells with
  | nil => exact ⟨[], rfl, .nil⟩
  | cons cell cells ih =>
    obtain ⟨text, htext, hall⟩ := ih fun x hx => hvalid x (List.mem_cons_of_mem _ hx)
    obtain ⟨c, hc⟩ := exists_reads (hvalid cell List.mem_cons_self)
    refine ⟨c :: text, ?_, .cons hc hall⟩
    rw [List.flatMap_cons, decode?_bytes_append (hvalid cell List.mem_cons_self) hc, htext]
    rfl

/-! ### Measures -/

/-- A character takes at most three bytes for every two bytes of its cell. -/
theorem utf8Size_le_of_reads {cell : Shape.Cell} {c : Char} (hvalid : cell.IsValid)
    (h : Reads cell c) : 2 * c.utf8Size ≤ 3 * cell.bytes.length := by
  cases cell with
  | single b =>
    have hb : c.toNat < 0x80 := by
      rw [show c.toNat = b.toNat from h]
      exact UInt8.lt_iff_toNat_lt.1 hvalid
    have hone : c.utf8Size = 1 := by
      rw [Char.utf8Size_eq_one_iff, UInt32.le_iff_toNat_le]
      exact Nat.le_of_lt_succ hb
    rw [hone]
    exact (by decide : 2 * 1 ≤ 3 * 1)
  | pair l t =>
    -- A character of the basic plane takes three bytes at most.
    have hthree : c.utf8Size ≠ 4 := by
      rw [Ne, Char.utf8Size_eq_four_iff, UInt32.lt_iff_toNat_lt]
      exact Nat.not_lt.2 (Nat.le_of_lt_succ h.2.2)
    have hfour := c.utf8Size_le_four
    exact (by omega : 2 * c.utf8Size ≤ 3 * 2)

/-- A text takes at most three bytes for every two bytes of its cells. -/
theorem length_le_of_reads {cells : List Shape.Cell} {text : Text}
    (hvalid : ∀ cell ∈ cells, cell.IsValid) (h : List.Forall₂ Reads cells text) :
    2 * Utf8.length text ≤ 3 * (cells.flatMap Shape.Cell.bytes).length := by
  induction h with
  | nil => exact Nat.le_refl 0
  | cons hc _ ih =>
    have hcell := utf8Size_le_of_reads (hvalid _ List.mem_cons_self) hc
    have hrest := ih fun x hx => hvalid x (List.mem_cons_of_mem _ hx)
    rw [Utf8.length, List.flatMap_cons, List.length_append]
    omega

/-! ### Control characters and ASCII -/

/-- A pair has no byte below `40`. -/
theorem le_of_mem_pair {l t x : UInt8} (hl : Shape.isLead l = true) (ht : Shape.isTrail t = true)
    (hx : x ∈ (Shape.Cell.pair l t).bytes) : 0x40 ≤ x.toNat := by
  have hlead := UInt8.le_iff_toNat_le.1 (Shape.le_of_isLead hl)
  simp only [Shape.isTrail, Bool.and_eq_true, decide_eq_true_eq, UInt8.le_iff_toNat_le,
    UInt8.reduceToNat] at ht hlead
  rcases List.mem_cons.1 hx with rfl | hx
  · omega
  · rw [List.mem_singleton.1 hx]
    exact ht.1.1

/-- A cell is read as a control character, a digit or a sign below `40` exactly if it has the byte
    with that number. -/
theorem eq_iff_of_reads {cell : Shape.Cell} {c d : Char} (hvalid : cell.IsValid)
    (h : Reads cell d) (hc : c.toNat < 0x40) : c = d ↔ UInt8.ofNat c.toNat ∈ cell.bytes := by
  have hnat : (UInt8.ofNat c.toNat).toNat = c.toNat := by
    rw [UInt8.toNat_ofNat']
    exact Nat.mod_eq_of_lt (by omega)
  cases cell with
  | single b =>
    rw [Shape.Cell.bytes, List.mem_singleton, ← UInt8.toNat_inj, hnat,
      ← show d.toNat = b.toNat from h, Char.toNat_inj]
  | pair l t =>
    -- A pair stands for no such character, and has no such byte.
    constructor
    · rintro rfl
      have hhigh : 0x80 ≤ c.toNat := h.2.1
      omega
    · intro hmem
      have hle := le_of_mem_pair hvalid.1 hvalid.2 hmem
      omega

/-- A text has a control character, a digit or a sign below `40` exactly if its cells have the byte
    with that number. -/
theorem mem_iff_of_reads {cells : List Shape.Cell} {text : Text}
    (hvalid : ∀ cell ∈ cells, cell.IsValid) (h : List.Forall₂ Reads cells text) {c : Char}
    (hc : c.toNat < 0x40) :
    c ∈ text ↔ UInt8.ofNat c.toNat ∈ cells.flatMap Shape.Cell.bytes := by
  induction h with
  | nil => simp
  | cons hreads _ ih =>
    obtain ⟨hcell, hrest⟩ := List.forall_mem_cons.1 hvalid
    rw [List.mem_cons, List.flatMap_cons, List.mem_append, eq_iff_of_reads hcell hreads hc,
      ih hrest]

/-- A cell is read as an ASCII character exactly if it is one, and then it is its encoding. -/
theorem low_iff_of_reads {cell : Shape.Cell} {c : Char} (hvalid : cell.IsValid)
    (h : Reads cell c) : c.toNat < 0x80 ↔ ∀ x ∈ cell.bytes, x < 0x80 := by
  cases cell with
  | single b =>
    have hb : b < 0x80 := hvalid
    rw [show c.toNat = b.toNat from h, Shape.Cell.bytes, List.forall_mem_singleton,
      UInt8.lt_iff_toNat_lt]
    rfl
  | pair l t =>
    have hlead := Shape.le_of_isLead hvalid.1
    -- A pair has a high byte in front, and stands for no ASCII character.
    constructor
    · intro hc
      exact absurd h.2.1 (Nat.not_le.2 hc)
    · intro hlow
      exact absurd (hlow l List.mem_cons_self) (UInt8.not_lt.2 hlead)

/-- An ASCII character is encoded as the cell that it is read off. -/
theorem utf8EncodeChar_of_reads {cell : Shape.Cell} {c : Char} (h : Reads cell c)
    (hc : c.toNat < 0x80) : String.utf8EncodeChar c = cell.bytes := by
  cases cell with
  | single b =>
    have hb : c.toNat = b.toNat := h
    rw [Utf8.utf8EncodeChar_of_lt hc, hb, UInt8.ofNat_toNat, Shape.Cell.bytes]
  | pair l t => exact absurd h.2.1 (Nat.not_le.2 hc)

/-- A text is encoded in ASCII exactly if its cells are ASCII. -/
theorem low_encode_iff_of_reads {cells : List Shape.Cell} {text : Text}
    (hvalid : ∀ cell ∈ cells, cell.IsValid) (h : List.Forall₂ Reads cells text) :
    (∀ x ∈ Utf8.encode text, x < 0x80) ↔ ∀ x ∈ cells.flatMap Shape.Cell.bytes, x < 0x80 := by
  induction h with
  | nil => exact Iff.rfl
  | cons hreads _ ih =>
    obtain ⟨hcell, hrest⟩ := List.forall_mem_cons.1 hvalid
    rw [Utf8.encode_cons, List.flatMap_cons, List.forall_mem_append, List.forall_mem_append,
      Utf8.low_utf8EncodeChar_iff, low_iff_of_reads hcell hreads, ih hrest]

/-- A text in ASCII is encoded as its cells. -/
theorem encode_of_reads {cells : List Shape.Cell} {text : Text} (h : List.Forall₂ Reads cells text)
    (hlow : ∀ x ∈ Utf8.encode text, x < 0x80) :
    Utf8.encode text = cells.flatMap Shape.Cell.bytes := by
  induction h with
  | nil => rfl
  | cons hreads _ ih =>
    rw [Utf8.encode_cons, List.forall_mem_append, Utf8.low_utf8EncodeChar_iff] at hlow
    rw [Utf8.encode_cons, List.flatMap_cons, utf8EncodeChar_of_reads hreads hlow.1, ih hlow.2]

end WifiNames.Charset.Gb18030
