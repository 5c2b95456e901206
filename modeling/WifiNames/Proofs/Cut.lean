import WifiNames.Proofs.Agreement

namespace WifiNames

/-!
# Cuts — what a zero byte leaves of a name

A converted name ends before its first NUL.  In a name of cells that is where the name itself has
its first zero byte, so the cut can be made in the name as well as in its text.

* `beforeZero` — the part of a name before its first zero byte.
* `Charset.ReadsByCell.exists_front` — **the cut**: the kept part of the text is read off the cells
  of that part of the name.
* `Charset.ReadsByCell.low_iff`, `Charset.ReadsByCell.encode_of_low` — the kept part of the text is
  ASCII exactly if that part of the name is, and then it is that part.
* `Charset.ReadsByCell.mem_beforeNul_iff` — which control characters a kept text has.
* `Converter.shown_eq_beforeNul` — a converter with enough room makes no other cut.
-/

open Converter

/-- The part of a name before its first zero byte. -/
def beforeZero (b : Bytes) : Bytes :=
  b.takeWhile (· != 0)

/-- A name goes on after the part `a` with a zero byte. -/
theorem beforeZero_append_zero {a : Bytes} (ha : 0 ∉ a) (rest : Bytes) :
    beforeZero (a ++ 0 :: rest) = a := by
  have hall : ∀ x ∈ a, (x != 0) = true := fun x hx => bne_iff_ne.2 fun heq => ha (heq ▸ hx)
  rw [beforeZero, List.takeWhile_append_of_pos hall]
  simp

theorem zero_notMem_beforeZero (b : Bytes) : 0 ∉ beforeZero b :=
  notMem_takeWhile_ne 0 b

/-- A name is its part before the first zero byte, unless it goes on with that byte. -/
theorem beforeZero_eq_or (b : Bytes) :
    beforeZero b = b ∨ ∃ rest, b = beforeZero b ++ 0 :: rest :=
  takeWhile_ne_eq_or 0 b

namespace Charset.Gb18030

/-- A cell is read as NUL exactly if it has a zero byte. -/
theorem eq_nul_iff_of_reads {cell : Shape.Cell} {c : Char} (hvalid : cell.IsValid)
    (h : Reads cell c) : c = '\x00' ↔ 0 ∈ cell.bytes := by
  rw [eq_comm]
  exact eq_iff_of_reads hvalid h (by decide)

/-- **The cut.** What stands in a text before its first NUL is read off the cells of what stands in
    the name before its first zero byte. -/
theorem exists_front_of_reads {cells : List Shape.Cell} {text : Text}
    (hvalid : ∀ cell ∈ cells, cell.IsValid) (h : List.Forall₂ Reads cells text) :
    ∃ front, (∀ cell ∈ front, cell.IsValid) ∧ List.Forall₂ Reads front (beforeNul text) ∧
      front.flatMap Shape.Cell.bytes = beforeZero (cells.flatMap Shape.Cell.bytes) := by
  induction h with
  | nil => exact ⟨[], by simp, .nil, rfl⟩
  | @cons cell c cells text hreads _ ih =>
    -- Cells are taken up to the first that is read as NUL.
    obtain ⟨hcell, hrest⟩ := List.forall_mem_cons.1 hvalid
    have hnul := eq_nul_iff_of_reads hcell hreads
    by_cases hc : c = '\x00'
    · -- The cell with the zero byte is a single byte, so the name ends before it.
      refine ⟨[], by simp, ?_, ?_⟩
      · rw [beforeNul, List.takeWhile_cons_of_neg (by simp [hc])]
        exact .nil
      · cases cell with
        | single b =>
          obtain rfl : 0 = b := List.mem_singleton.1 (hnul.1 hc)
          rfl
        | pair l t => exact absurd (hc ▸ hreads.2.1) (by decide)
    · obtain ⟨front, hfront, hfrontReads, hbytes⟩ := ih hrest
      refine ⟨cell :: front, List.forall_mem_cons.2 ⟨hcell, hfront⟩, ?_, ?_⟩
      · rw [beforeNul, List.takeWhile_cons_of_pos (by simpa using hc)]
        exact .cons hreads hfrontReads
      · -- A cell that is read as another character has no zero byte and is passed over whole.
        have hpass : ∀ x ∈ cell.bytes, (x != 0) = true :=
          fun x hx => bne_iff_ne.2 fun heq => hc (hnul.2 (heq ▸ hx))
        rw [List.flatMap_cons, List.flatMap_cons, beforeZero, List.takeWhile_append_of_pos hpass,
          hbytes, beforeZero]

end Charset.Gb18030

namespace Charset.ReadsByCell

variable {charset : Charset} {b : Bytes} {cells : List Shape.Cell} {text : Text}

/-- **The cut** in a name that is read cell by cell. -/
theorem exists_front (h : charset.ReadsByCell b cells text) :
    ∃ front, (∀ cell ∈ front, cell.IsValid) ∧ List.Forall₂ Gb18030.Reads front (beforeNul text) ∧
      front.flatMap Shape.Cell.bytes = beforeZero b := by
  have hfront := Gb18030.exists_front_of_reads h.isValid h.reads
  rwa [h.flatMap_bytes_eq] at hfront

/-- What is kept of the text is ASCII exactly if that part of the name is. -/
theorem low_iff (h : charset.ReadsByCell b cells text) :
    (∀ x ∈ Utf8.encode (beforeNul text), x < 0x80) ↔ ∀ x ∈ beforeZero b, x < 0x80 := by
  obtain ⟨front, hvalid, hreads, hbytes⟩ := h.exists_front
  rw [← hbytes]
  exact Gb18030.low_encode_iff_of_reads hvalid hreads

/-- What is kept of the text is that part of the name if it is ASCII. -/
theorem encode_of_low (h : charset.ReadsByCell b cells text)
    (hlow : ∀ x ∈ Utf8.encode (beforeNul text), x < 0x80) :
    Utf8.encode (beforeNul text) = beforeZero b := by
  obtain ⟨front, -, hreads, hbytes⟩ := h.exists_front
  rw [← hbytes]
  exact Gb18030.encode_of_reads hreads hlow

/-- What is kept of the text has a control character, a digit or a sign below `40` exactly if that
    part of the name has the byte with that number. -/
theorem mem_beforeNul_iff (h : charset.ReadsByCell b cells text) {c : Char} (hc : c.toNat < 0x40) :
    c ∈ beforeNul text ↔ UInt8.ofNat c.toNat ∈ beforeZero b := by
  obtain ⟨front, hvalid, hreads, hbytes⟩ := h.exists_front
  rw [← hbytes]
  exact Gb18030.mem_iff_of_reads hvalid hreads hc

end Charset.ReadsByCell

namespace Converter

/-- What is kept is no longer than the text. -/
theorem length_beforeNul_le (t : Text) : Utf8.length (beforeNul t) ≤ Utf8.length t := by
  induction t with
  | nil => exact Nat.le_refl _
  | cons c t ih =>
    rw [beforeNul, List.takeWhile_cons]
    split
    · exact Nat.add_le_add_left ih _
    · -- Nothing is kept from the NUL on.
      exact Nat.zero_le _

/-- A converter with enough room cuts at a NUL only. -/
theorem shown_eq_beforeNul {c : Converter} {t : Text} (hlen : Utf8.length t ≤ c.capacity) :
    c.shown t = beforeNul t :=
  Utf8.truncate_eq_self (Nat.le_trans (length_beforeNul_le t) hlen)

end Converter

end WifiNames
