import WifiNames.Proofs.Gb18030
import WifiNames.Proofs.Registry

namespace WifiNames

/-!
# Agreement — whatever looks like GBK can be read as GBK

The double-byte pattern and the readers of the GBK family do not know each other: the readers
also take four-byte forms and the lone byte `80`.  On names that have the pattern they cut at the
same places, so such names are never rejected.

* `Charset.IsGbkFamily` — the charsets in question.
* `Charset.ReadsByCell` — a text that is read off a name cell by cell.
* `Charset.exists_readsByCell` — every name with the pattern has such a text.
* `Converter.shown_of_readsByCell` — how much room a converter needs to keep all of it.
* `convert_of_isDoubleByte` — what converters and registries make of such a name.
-/

namespace Charset

/-- The charsets that share the readers of GBK. -/
def IsGbkFamily (charset : Charset) : Prop :=
  charset = .gbk ∨ charset = .gb18030

theorem decode?_of_isGbkFamily {charset : Charset} (h : charset.IsGbkFamily) (b : Bytes) :
    charset.decode? b = Gb18030.decode? b := by
  rcases h with rfl | rfl <;> rfl

/-- A text that a charset reads off a name cell by cell. -/
structure ReadsByCell (charset : Charset) (b : Bytes) (cells : List Shape.Cell) (text : Text) :
    Prop where
  /-- The pattern cuts the name into the cells. -/
  cells?_eq : Shape.cells? b = some cells
  flatMap_bytes_eq : cells.flatMap Shape.Cell.bytes = b
  decode?_eq : charset.decode? b = some text
  /-- Each cell alone is read as its character of the text: an ASCII byte as itself, a pair as one
      character of the basic plane. -/
  reads_cells : List.Forall₂
    (fun cell c => charset.decode? cell.bytes = some [c] ∧ Gb18030.Reads cell c) cells text
  length_eq : text.length = cells.length
  /-- The text takes at most three bytes for two bytes of the name. -/
  length_encode_le : 2 * (Utf8.encode text).length ≤ 3 * b.length
  /-- The text has a NUL only if the name has one. -/
  nul_notMem : 0 ∉ b → '\x00' ∉ text

namespace ReadsByCell

variable {charset : Charset} {b : Bytes} {cells : List Shape.Cell} {text : Text}

/-- The cells of a name that is read cell by cell are valid. -/
theorem isValid (h : charset.ReadsByCell b cells text) : ∀ cell ∈ cells, cell.IsValid :=
  (Shape.cells?_eq_some_iff.1 h.cells?_eq).1

/-- The cells are read as the characters of the text. -/
theorem reads (h : charset.ReadsByCell b cells text) : List.Forall₂ Gb18030.Reads cells text :=
  h.reads_cells.imp fun _ _ hcell => hcell.2

end ReadsByCell

/-- **Same cuts.** A name with the pattern is read cell by cell. -/
theorem exists_readsByCell {charset : Charset} (hfamily : charset.IsGbkFamily) {b : Bytes}
    (hb : Shape.isDoubleByte b = true) : ∃ cells text, charset.ReadsByCell b cells text := by
  obtain ⟨cells, hcells, -⟩ := Shape.isDoubleByte_iff.1 hb
  obtain ⟨hvalid, hbytes⟩ := Shape.cells?_eq_some_iff.1 hcells
  -- The reader cuts where the pattern does: its text is read off the same cells.
  obtain ⟨text, hdecode, hreads⟩ := Gb18030.decode?_flatMap_bytes hvalid
  rw [hbytes, ← decode?_of_isGbkFamily hfamily] at hdecode
  refine ⟨cells, text, hcells, hbytes, hdecode, ?_, hreads.length_eq.symm, ?_, ?_⟩
  · -- A cell on its own is read as it is within the name.
    have hboth := (List.forall₂_and_left cells text).2 ⟨hvalid, hreads⟩
    refine hboth.imp ?_
    rintro cell c ⟨hcell, hc⟩
    rw [decode?_of_isGbkFamily hfamily]
    exact ⟨Gb18030.decode?_bytes hcell hc, hc⟩
  · rw [Utf8.length_encode, ← hbytes]
    exact Gb18030.length_le_of_reads hvalid hreads
  · -- A NUL in the text comes from a cell with a zero byte.
    intro hzero hnul
    have hmem := (Gb18030.mem_iff_of_reads hvalid hreads (by decide)).1 hnul
    exact hzero (hbytes ▸ hmem)

end Charset

/-- What is read off a name without a zero byte is kept whole by a converter with room for three
    bytes for every two of the name. -/
theorem Converter.shown_of_readsByCell {c : Converter} {charset : Charset} {b : Bytes}
    {cells : List Shape.Cell} {text : Text} (h : charset.ReadsByCell b cells text)
    (hzero : 0 ∉ b) (hroom : 3 * b.length ≤ 2 * c.capacity) : c.shown text = text := by
  have hle := h.length_encode_le
  rw [Utf8.length_encode] at hle
  exact shown_eq_self (h.nul_notMem hzero) (by omega)

/-- A GBK name is read cell by cell, and a converter answers with as much of that as it has room
    for. -/
theorem Converter.exists_readsByCell {c : Converter} {charset : Charset}
    (hlabel : Charset.ofLabel? c.charset = some charset) (hfamily : charset.IsGbkFamily) {b : Bytes}
    (hb : isGbkName b = true) :
    ∃ cells text, charset.ReadsByCell b cells text ∧
      (c.toUtf8 b).value = .ok (Utf8.encode (c.shown text)) := by
  obtain ⟨-, hdouble⟩ := Bool.and_eq_true_iff.1 hb
  obtain ⟨cells, text, hreads⟩ := Charset.exists_readsByCell hfamily hdouble
  refine ⟨cells, text, hreads, ?_⟩
  rw [value_toUtf8, hlabel]
  simp only [hreads.decode?_eq]

/-- **Agreement.** A converter for a charset of the GBK family reads every name with the
    double-byte pattern cell by cell, and answers with as much of the text as it has room for.  A
    registry that uses it can fail on such a name for want of a session only. -/
theorem convert_of_isDoubleByte {c : Converter} {charset : Charset}
    (hlabel : Charset.ofLabel? c.charset = some charset) (hfamily : charset.IsGbkFamily)
    {b : Bytes} (hb : Shape.isDoubleByte b = true) :
    ∃ cells text, charset.ReadsByCell b cells text ∧
      (c.toUtf8 b).value = .ok (Utf8.encode (c.shown text)) ∧
      (0 ∉ b → 3 * b.length ≤ 2 * c.capacity →
        (c.toUtf8 b).value = .ok (Utf8.encode text)) ∧
      ∀ r : Registry, r.transcoder = c.transcoder →
        ∀ e, (r.convert b).value.1 = .error e → e = .notInitialized := by
  obtain ⟨cells, text, hreads⟩ := Charset.exists_readsByCell hfamily hb
  have hok : (c.toUtf8 b).value = .ok (Utf8.encode (c.shown text)) := by
    rw [Converter.value_toUtf8, hlabel]
    simp only [hreads.decode?_eq]
  refine ⟨cells, text, hreads, hok, ?_, ?_⟩
  · intro hzero hroom
    rw [hok, Converter.shown_of_readsByCell hreads hzero hroom]
  · intro r hr e he
    have hconvert : (r.transcoder.toUtf8 b).value = .ok (Utf8.encode (c.shown text)) := by
      rw [hr]
      exact hok
    -- The converter does not fail, so only the history is left to.
    rw [Registry.convert_of_ok hconvert] at he
    split at he
    · cases he
    · exact (Except.error.inj he).symm

/-- A pair and a letter in the default charset. -/
theorem convert_of_isDoubleByte_default :
    Charset.ofLabel? Converter.default.charset = some .gbk ∧ Charset.gbk.IsGbkFamily ∧
      Shape.isDoubleByte [0xD6, 0xD0, 0x41] = true ∧
      ∃ cells text, Charset.gbk.ReadsByCell [0xD6, 0xD0, 0x41] cells text ∧
        (Converter.default.toUtf8 [0xD6, 0xD0, 0x41]).value = .ok (Utf8.encode text) := by
  have hlabel : Charset.ofLabel? Converter.default.charset = some .gbk := by rfl
  have hfamily : Charset.gbk.IsGbkFamily := Or.inl rfl
  have hb : Shape.isDoubleByte [0xD6, 0xD0, 0x41] = true := by decide
  obtain ⟨cells, text, hreads, -, hwhole, -⟩ := convert_of_isDoubleByte hlabel hfamily hb
  exact ⟨hlabel, hfamily, hb, cells, text, hreads, hwhole (by decide) (by decide)⟩

end WifiNames
