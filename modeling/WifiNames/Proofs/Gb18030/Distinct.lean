import Mathlib.Data.List.Nodup
import WifiNames.Proofs.Gb18030

namespace WifiNames.Charset.Gb18030

/-!
# GB18030 — which cells hold the same character

The two-byte table holds every character once, with one exception: the ideographic space stands in
its own cell `A1 A1` and in the spare cell `A3 A0` as well.  So a name can be told from its text,
up to that one choice.

* `pairCodes` — the code points of the table in the order of the cells.
* `areFresh`, `nodup_pairCodes` — **the check of the table**: without the spare cell no code point
  stands in it twice.
* `eq_or_isSpaceCells` — two cells with the same code point.
* `Alike` — pairs of bytes that the exception makes interchangeable.
* `alike_of_reads`, `eq_of_alike` — cells are read as the same character exactly if they are alike.
* `forall₂_alike_of_reads`, `eq_of_forall₂_alike` — the same for names and texts, cell by cell.
-/

/-! ### The table as one list -/

/-- The code points in the cells of a word, from left to right. -/
def wordCodes (word : Nat) : List Nat :=
  (List.range cellsPerWord).map fun i => (word >>> (16 * (cellsPerWord - 1 - i))) % 65536

/-- The code points in all cells, in order. -/
def pairCodes : List Nat :=
  pairWords.toList.flatMap wordCodes

theorem length_wordCodes (word : Nat) : (wordCodes word).length = cellsPerWord := by
  simp [wordCodes]

/-- A look-up in pieces of the same length, one behind the other: the quotient finds the piece and
    the remainder the place in it. -/
theorem getElem?_flatMap_of_length {α β : Type} {f : α → List β} {k : Nat} (hk : 0 < k)
    (hf : ∀ a, (f a).length = k) (l : List α) (n : Nat) :
    (l.flatMap f)[n]? = l[n / k]?.bind fun a => (f a)[n % k]? := by
  induction l generalizing n with
  | nil => simp
  | cons a l ih =>
    rw [List.flatMap_cons, List.getElem?_append, hf]
    -- The place is in the first piece, or as many cells further on.
    by_cases hn : n < k
    · rw [if_pos hn, Nat.div_eq_of_lt hn, Nat.mod_eq_of_lt hn]
      rfl
    · have hle : k ≤ n := Nat.not_lt.1 hn
      rw [if_neg hn, ih, Nat.div_eq_sub_div hk hle, Nat.mod_eq_sub_mod hle]
      rfl

/-- The table as a list answers what the table answers. -/
theorem pairCode?_eq (n : Nat) : pairCode? n = pairCodes[n]? := by
  have hcells : 0 < cellsPerWord := by decide
  have hlt : n % cellsPerWord < cellsPerWord := Nat.mod_lt n hcells
  rw [pairCodes, getElem?_flatMap_of_length hcells length_wordCodes, pairCode?,
    Array.getElem?_toList]
  cases pairWords[n / cellsPerWord]? with
  | none => rfl
  | some word => simp [wordCodes, List.getElem?_range hlt]

/-! ### The check of the table -/

/-- Whether numbers are different from each other and from those whose bits are set in `seen`.  The
    operations are the ones that are fast on literals. -/
def areFresh : Nat → List Nat → Bool
  | _, [] => true
  | seen, c :: rest =>
    Nat.beq (Nat.land (Nat.shiftRight seen c) 1) 0 &&
      areFresh (Nat.lor seen (Nat.shiftLeft 1 c)) rest

/-- The bit that the check looks at. -/
theorem testBit_eq_false {seen c : Nat} (h : Nat.beq (Nat.land (Nat.shiftRight seen c) 1) 0 = true) :
    seen.testBit c = false := by
  have hbit : seen >>> c &&& 1 = 0 := Nat.eq_of_beq_eq_true h
  rw [Nat.testBit, Nat.and_comm, hbit]
  rfl

theorem nodup_of_areFresh {seen : Nat} {l : List Nat} (h : areFresh seen l = true) :
    l.Nodup ∧ ∀ c ∈ l, seen.testBit c = false := by
  induction l generalizing seen with
  | nil => exact ⟨List.nodup_nil, by simp⟩
  | cons c l ih =>
    rw [areFresh, Bool.and_eq_true] at h
    obtain ⟨hnodup, hrest⟩ := ih h.2
    -- What comes after `c` is different from `c`, whose bit is set by then.
    have hbits : ∀ x ∈ l, seen.testBit x = false ∧ c ≠ x := by
      intro x hx
      have hor : (seen ||| 1 <<< c).testBit x = false := hrest x hx
      rw [Nat.testBit_or, Nat.one_shiftLeft, Nat.testBit_two_pow, Bool.or_eq_false_iff] at hor
      exact ⟨hor.1, of_decide_eq_false hor.2⟩
    refine ⟨List.nodup_cons.2 ⟨fun hc => (hbits c hc).2 rfl, hnodup⟩, ?_⟩
    exact List.forall_mem_cons.2 ⟨testBit_eq_false h.1, fun x hx => (hbits x hx).1⟩

/-- The cell `A1 A1` of the ideographic space. -/
def spaceCell : Nat := 6176

/-- The cell `A3 A0`, which holds the ideographic space once more. -/
def spareCell : Nat := 6555

theorem areFresh_pairCodes : areFresh 0 (pairCodes.set spareCell 0) = true := by
  decide +kernel

/-- **The check of the table.** Without the spare cell no code point stands in the table twice. -/
theorem nodup_pairCodes : (pairCodes.set spareCell 0).Nodup :=
  (nodup_of_areFresh areFresh_pairCodes).1

theorem pairCode?_spareCell : pairCode? spareCell = pairCode? spaceCell := by
  decide +kernel

/-- Apart from the spare cell, a code point stands in one cell only. -/
theorem eq_of_pairCode? {m n code : Nat} (hm : pairCode? m = some code)
    (hn : pairCode? n = some code) (hm' : m ≠ spareCell) (hn' : n ≠ spareCell) : m = n := by
  rw [pairCode?_eq] at hm hn
  -- Neither cell is the spare one, so both are still there without it.
  rw [← List.getElem?_set_ne hm'.symm] at hm
  rw [← List.getElem?_set_ne hn'.symm] at hn
  have hlt := (List.getElem?_eq_some_iff.1 hm).1
  exact (List.getElem?_inj hlt nodup_pairCodes).1 (hm.trans hn.symm)

/-- Whether two cells are those of the ideographic space, in this order. -/
def IsSpaceCells (m n : Nat) : Prop :=
  m = spaceCell ∧ n = spareCell

/-- **Cells with the same code point** are the same cell, or the two of the ideographic space. -/
theorem eq_or_isSpaceCells {m n code : Nat} (hm : pairCode? m = some code)
    (hn : pairCode? n = some code) : m = n ∨ IsSpaceCells m n ∨ IsSpaceCells n m := by
  have hspace : spaceCell ≠ spareCell := by decide
  -- The spare cell is traded for the cell of the ideographic space, and then all cells are distinct.
  by_cases hm' : m = spareCell
  · by_cases hn' : n = spareCell
    · exact Or.inl (hm'.trans hn'.symm)
    · rw [hm', pairCode?_spareCell] at hm
      exact Or.inr (Or.inr ⟨(eq_of_pairCode? hm hn hspace hn').symm, hm'⟩)
  · by_cases hn' : n = spareCell
    · rw [hn', pairCode?_spareCell] at hn
      exact Or.inr (Or.inl ⟨eq_of_pairCode? hm hn hm' hspace, hn'⟩)
    · exact Or.inl (eq_of_pairCode? hm hn hm' hn')

/-! ### Cells of a name -/

/-- The byte in a column of the table. -/
theorem toNat_of_column? {t : UInt8} {column : Nat} (h : column? t = some column) :
    t.toNat = if column < 63 then column + 0x40 else column + 0x41 := by
  simp only [column?, UInt8.le_iff_toNat_le, UInt8.reduceToNat] at h
  split at h
  · obtain rfl := Option.some.inj h
    rw [if_pos (by omega)]
    omega
  · split at h
    · obtain rfl := Option.some.inj h
      rw [if_neg (by omega)]
      omega
    · cases h

/-- A trail byte has a column of its own. -/
theorem column?_inj {t t' : UInt8} {column : Nat} (h : column? t = some column)
    (h' : column? t' = some column) : t = t' := by
  rw [← UInt8.toNat_inj, toNat_of_column? h, toNat_of_column? h']

/-- Two pairs have different cells. -/
theorem cell?_inj {l t l' t' : UInt8} {n : Nat} (hl : Shape.isLead l = true)
    (ht : Shape.isTrail t = true) (hl' : Shape.isLead l' = true) (ht' : Shape.isTrail t' = true)
    (h : cell? l t = some n) (h' : cell? l' t' = some n) : l = l' ∧ t = t' := by
  obtain ⟨column, hcolumn, hlt⟩ := exists_column ht
  obtain ⟨column', hcolumn', hlt'⟩ := exists_column ht'
  have hrow : cellsPerRow = 190 := rfl
  simp only [cell?, hcolumn, hcolumn', Option.map_some, Option.some.injEq] at h h'
  simp only [Shape.isLead, Bool.and_eq_true, decide_eq_true_eq, UInt8.le_iff_toNat_le,
    UInt8.reduceToNat] at hl hl'
  rw [hrow] at h h' hlt hlt'
  -- A column is less than the width of a row, so the number of the cell has both.
  have hrows : l.toNat = l'.toNat := by omega
  have hcolumns : column = column' := by omega
  subst hcolumns
  exact ⟨UInt8.toNat_inj.1 hrows, column?_inj hcolumn hcolumn'⟩

/-- The character of a pair has the code point in its cell. -/
theorem exists_cell_of_reads {l t : UInt8} {c : Char} (hl : Shape.isLead l = true)
    (ht : Shape.isTrail t = true) (h : Reads (.pair l t) c) :
    ∃ n, cell? l t = some n ∧ pairCode? n = some c.toNat := by
  obtain ⟨n, code, hcell, hcode, hpair, hnat, -⟩ := exists_cell hl ht
  obtain rfl : Char.ofNat code = c := Option.some.inj (hpair.symm.trans h.1)
  exact ⟨n, hcell, hnat.symm ▸ hcode⟩

/-- Cells that nobody can tell apart once they are read. -/
inductive Alike : Shape.Cell → Shape.Cell → Prop where
  | refl (cell : Shape.Cell) : Alike cell cell
  /-- The ideographic space, and its spare cell instead. -/
  | spare : Alike (.pair 0xA1 0xA1) (.pair 0xA3 0xA0)
  /-- The spare cell of the ideographic space, and its own cell instead. -/
  | own : Alike (.pair 0xA3 0xA0) (.pair 0xA1 0xA1)

/-- The pair of the cell of the ideographic space, and the pair of its spare cell. -/
theorem eq_pair_of_isSpaceCells {l t l' t' : UInt8} {m n : Nat} (hl : Shape.isLead l = true)
    (ht : Shape.isTrail t = true) (hl' : Shape.isLead l' = true) (ht' : Shape.isTrail t' = true)
    (hm : cell? l t = some m) (hn : cell? l' t' = some n) (h : IsSpaceCells m n) :
    (l = 0xA1 ∧ t = 0xA1) ∧ l' = 0xA3 ∧ t' = 0xA0 := by
  obtain ⟨rfl, rfl⟩ := h
  exact ⟨cell?_inj hl ht (by decide) (by decide) hm (by decide),
    cell?_inj hl' ht' (by decide) (by decide) hn (by decide)⟩

/-- **Cells read as the same character are alike.** -/
theorem alike_of_reads {x y : Shape.Cell} {c : Char} (hx : x.IsValid) (hy : y.IsValid)
    (hxc : Reads x c) (hyc : Reads y c) : Alike x y := by
  -- A byte is read as ASCII and a pair is not, so that both are of the same kind.
  cases x with
  | single a =>
    have ha : c.toNat < 0x80 := hxc ▸ UInt8.lt_iff_toNat_lt.1 hx
    cases y with
    | single b =>
      obtain rfl : a = b := UInt8.toNat_inj.1 (hxc.symm.trans hyc)
      exact .refl _
    | pair l t => exact absurd hyc.2.1 (Nat.not_le.2 ha)
  | pair l t =>
    cases y with
    | single b =>
      have hb : c.toNat < 0x80 := hyc ▸ UInt8.lt_iff_toNat_lt.1 hy
      exact absurd hxc.2.1 (Nat.not_le.2 hb)
    | pair l' t' =>
      obtain ⟨m, hm, hmc⟩ := exists_cell_of_reads hx.1 hx.2 hxc
      obtain ⟨n, hn, hnc⟩ := exists_cell_of_reads hy.1 hy.2 hyc
      -- The code point is the same, and stands in one cell, or in the two of the ideographic space.
      rcases eq_or_isSpaceCells hmc hnc with rfl | h | h
      · obtain ⟨rfl, rfl⟩ := cell?_inj hx.1 hx.2 hy.1 hy.2 hm hn
        exact .refl _
      · obtain ⟨⟨rfl, rfl⟩, rfl, rfl⟩ := eq_pair_of_isSpaceCells hx.1 hx.2 hy.1 hy.2 hm hn h
        exact .spare
      · obtain ⟨⟨rfl, rfl⟩, rfl, rfl⟩ := eq_pair_of_isSpaceCells hy.1 hy.2 hx.1 hx.2 hn hm h
        exact .own

/-- A cell is read as one character only. -/
theorem reads_unique {x : Shape.Cell} {c d : Char} (hc : Reads x c) (hd : Reads x d) : c = d := by
  cases x with
  | single b => exact Char.toNat_inj.1 (hc.trans hd.symm)
  | pair l t => exact Option.some.inj (hc.1.symm.trans hd.1)

theorem pair?_spare : pair? 0xA1 0xA1 = pair? 0xA3 0xA0 := by
  decide +kernel

/-- **Cells that are alike are read as the same character.** -/
theorem eq_of_alike {x y : Shape.Cell} {c d : Char} (h : Alike x y) (hc : Reads x c)
    (hd : Reads y d) : c = d := by
  cases h with
  | refl => exact reads_unique hc hd
  | spare => exact Option.some.inj (hc.1.symm.trans (pair?_spare.trans hd.1))
  | own => exact Option.some.inj (hc.1.symm.trans (pair?_spare.symm.trans hd.1))

/-! ### Texts -/

/-- Names that are read as the same text are alike, cell by cell. -/
theorem forall₂_alike_of_reads {xs ys : List Shape.Cell} {text : Text}
    (hxs : ∀ x ∈ xs, x.IsValid) (hys : ∀ y ∈ ys, y.IsValid) (hx : List.Forall₂ Reads xs text)
    (hy : List.Forall₂ Reads ys text) : List.Forall₂ Alike xs ys := by
  induction hx generalizing ys with
  | nil =>
    cases hy
    exact .nil
  | @cons x c xs text hxc _ ih =>
    cases hy with
    | @cons y _ ys _ hyc hrest =>
      obtain ⟨hx, hxs⟩ := List.forall_mem_cons.1 hxs
      obtain ⟨hy, hys⟩ := List.forall_mem_cons.1 hys
      exact .cons (alike_of_reads hx hy hxc hyc) (ih hxs hys hrest)

/-- Names that are alike, cell by cell, are read as the same text. -/
theorem eq_of_forall₂_alike {xs ys : List Shape.Cell} {s t : Text} (h : List.Forall₂ Alike xs ys)
    (hx : List.Forall₂ Reads xs s) (hy : List.Forall₂ Reads ys t) : s = t := by
  induction h generalizing s t with
  | nil =>
    cases hx
    cases hy
    rfl
  | cons hxy _ ih =>
    cases hx with
    | cons hc hs =>
      cases hy with
      | cons hd ht => rw [eq_of_alike hxy hc hd, ih hs ht]

/-- Without the spare cell, names that are alike are the same. -/
theorem eq_of_forall₂_alike_of_notMem {xs ys : List Shape.Cell} (h : List.Forall₂ Alike xs ys)
    (hx : .pair 0xA3 0xA0 ∉ xs) (hy : .pair 0xA3 0xA0 ∉ ys) : xs = ys := by
  induction h with
  | nil => rfl
  | @cons x y xs ys hxy _ ih =>
    rw [List.mem_cons, not_or] at hx hy
    rw [ih hx.2 hy.2]
    -- The other two ways to be alike need the spare cell on one of the two sides.
    cases hxy with
    | refl => rfl
    | spare => exact absurd rfl hy.1
    | own => exact absurd rfl hx.1

end WifiNames.Charset.Gb18030
