import WifiNames.Proofs.Utf8.Reading
import WifiNames.Shape

namespace WifiNames.Shape

/-!
# Shapes — what the two byte patterns accept

Each pattern cuts a name into pieces: the multi-byte one into *units*, the double-byte one into
cells.  The encoding of a text consists of units, which is why text is never taken for GBK.

* `IsUnit` — an ASCII byte, or a lead byte with the continuation bytes that it announces.
* `completes_append` — the walk along a name passes over whole units.
* `isUnit_of_isForm`, `completes_encode` — the encoding of a character is a unit, so the walk
  accepts the encoding of every text.
* `Cell.IsValid`, `cells?_eq_some_iff` — the cells of a name are the one way to write its bytes
  as valid cells.
* `isGbkName_of_wellFormed` — strict UTF-8 is not a GBK name.
-/

/-! ### Units -/

/-- What the multi-byte pattern is made of. -/
inductive IsUnit : Bytes → Prop where
  /-- A byte that stands alone. -/
  | ascii {b : UInt8} (hb : b < 0x80) : IsUnit [b]
  /-- A lead byte with as many continuation bytes as it announces. -/
  | led {lead : UInt8} {tail : Bytes} (hlead : tailLength? lead = some tail.length)
      (htail : ∀ b ∈ tail, isContinuation b = true) : IsUnit (lead :: tail)

/-- The continuation bytes are `80` to `BF`. -/
theorem isContinuation_iff {b : UInt8} :
    isContinuation b = true ↔ 0x80 ≤ b.toNat ∧ b.toNat ≤ 0xBF := by
  have hall : ∀ n < 256, isContinuation (UInt8.ofNat n) = true ↔ 0x80 ≤ n ∧ n ≤ 0xBF := by
    decide +kernel
  simpa using hall b.toNat b.toNat_lt

/-- Pending continuation bytes are passed over. -/
theorem completes_length_append {tail : Bytes} (htail : ∀ b ∈ tail, isContinuation b = true)
    (rest : Bytes) : completes tail.length (tail ++ rest) = completes 0 rest := by
  induction tail with
  | nil => rfl
  | cons b tail ih =>
    have hb := htail b (by simp)
    -- One pending byte less, after a byte that may be one.
    rw [List.length_cons, List.cons_append, completes, hb, Bool.true_and]
    exact ih fun x hx => htail x (by simp [hx])

/-- A byte that announces continuation bytes is `C0` or above. -/
theorem le_of_tailLength? {lead : UInt8} {n : Nat} (h : tailLength? lead = some n) :
    0xC0 ≤ lead.toNat := by
  refine Nat.not_lt.1 fun hlow => ?_
  rw [tailLength?, if_pos (UInt8.lt_iff_toNat_lt.2 hlow)] at h
  cases h

/-- A byte that announces continuation bytes is not ASCII. -/
theorem not_lt_of_tailLength? {lead : UInt8} {n : Nat} (h : tailLength? lead = some n) :
    ¬ lead < 0x80 := by
  have hle := le_of_tailLength? h
  simp only [UInt8.lt_iff_toNat_lt, UInt8.reduceToNat]
  omega

/-- **The walk passes over whole units.** -/
theorem completes_append {u : Bytes} (hu : IsUnit u) (rest : Bytes) :
    completes 0 (u ++ rest) = completes 0 rest := by
  cases hu with
  | ascii hb => rw [List.singleton_append, completes, if_pos hb]
  | led hlead htail =>
    rw [List.cons_append, completes, if_neg (not_lt_of_tailLength? hlead), hlead]
    exact completes_length_append htail rest

/-! ### The encoding of a character is a unit -/

/-- The continuation bytes are the tail bytes of strict UTF-8. -/
theorem isContinuation_iff_isTail {b : UInt8} :
    isContinuation b = true ↔ Utf8.isTail b = true := by
  rw [isContinuation_iff, Utf8.isTail_iff]

/-- How many continuation bytes the lead bytes `C0` to `F7` announce. -/
theorem tailLength?_eq {lead : UInt8} (hlo : 0xC0 ≤ lead.toNat) (hhi : lead.toNat < 0xF8) :
    tailLength? lead =
      some (if lead.toNat < 0xE0 then 1 else if lead.toNat < 0xF0 then 2 else 3) := by
  have hlow : ¬ lead.toNat < 0xC0 := by omega
  simp only [tailLength?, UInt8.lt_iff_toNat_lt, UInt8.reduceToNat, hlow, hhi, if_true, if_false]
  split
  · rfl
  · split <;> rfl

/-- A form of strict UTF-8 is a unit. -/
theorem isUnit_of_isForm {u : Bytes} (hu : Utf8.IsForm u) : IsUnit u := by
  cases hu with
  | one ha => exact .ascii (UInt8.lt_iff_toNat_lt.2 ha)
  | two ha hb =>
    refine .led ?_ ?_
    · rw [tailLength?_eq (by omega) (by omega), if_pos (by omega)]
      rfl
    · rw [List.forall_mem_singleton]
      exact isContinuation_iff_isTail.2 hb
  | three ha hb hc =>
    -- The second byte is restricted further, which the units do not ask for.
    have htail := (Utf8.isSecondOfThree_iff.1 hb).1
    refine .led ?_ ?_
    · rw [tailLength?_eq (by omega) (by omega), if_neg (by omega), if_pos (by omega)]
      rfl
    · simp only [List.forall_mem_cons, List.not_mem_nil, false_implies, implies_true, and_true]
      exact ⟨isContinuation_iff_isTail.2 htail, isContinuation_iff_isTail.2 hc⟩
  | four ha hb hc hd =>
    have htail := (Utf8.isSecondOfFour_iff.1 hb).1
    refine .led ?_ ?_
    · rw [tailLength?_eq (by omega) (by omega), if_neg (by omega), if_neg (by omega)]
      rfl
    · simp only [List.forall_mem_cons, List.not_mem_nil, false_implies, implies_true, and_true]
      exact ⟨isContinuation_iff_isTail.2 htail, isContinuation_iff_isTail.2 hc,
        isContinuation_iff_isTail.2 hd⟩

/-- The encoding of a character is a unit. -/
theorem isUnit_utf8EncodeChar (c : Char) : IsUnit (String.utf8EncodeChar c) :=
  isUnit_of_isForm (Utf8.isForm_utf8EncodeChar c)

/-- The encoding of a text is accepted by the walk. -/
theorem completes_encode (t : Text) : completes 0 (Utf8.encode t) = true := by
  induction t with
  | nil => rfl
  | cons c t ih => rw [Utf8.encode_cons, completes_append (isUnit_utf8EncodeChar c), ih]

/-! ### Cells -/

/-- Whether the bytes of a cell are what they have to be. -/
def Cell.IsValid : Cell → Prop
  | .single b => b < 0x80
  | .pair l t => isLead l = true ∧ isTrail t = true

/-- A valid cell is split off whole. -/
theorem cells?_bytes_append {cell : Cell} (h : cell.IsValid) (rest : Bytes) :
    cells? (cell.bytes ++ rest) = (cells? rest).map (cell :: ·) := by
  cases cell with
  | single b =>
    have hlead : isLead b = false := by
      simp only [Cell.IsValid, UInt8.lt_iff_toNat_lt] at h
      simp only [isLead, UInt8.le_iff_toNat_le, Bool.and_eq_false_iff, decide_eq_false_iff_not]
      left
      exact Nat.not_le.2 (Nat.lt_trans h (by decide))
    rw [Cell.bytes, List.singleton_append, cells?.eq_def]
    simp only [hlead, if_neg Bool.false_ne_true, if_pos (show b < 0x80 from h)]
  | pair l t =>
    rw [Cell.bytes, List.cons_append, List.singleton_append, cells?, if_pos h.1, if_pos h.2]

/-- **The cells of a name.** A list of cells is the split of a name exactly if the cells are
    valid and their bytes, in order, make up the name. -/
theorem cells?_eq_some_iff {b : Bytes} {cells : List Cell} :
    cells? b = some cells ↔ (∀ cell ∈ cells, cell.IsValid) ∧ cells.flatMap Cell.bytes = b := by
  constructor
  · intro h
    -- The cases that go on split off a pair or a single byte; the others fail.
    fun_induction cells? b generalizing cells with
    | case1 =>
      cases h
      simp
    | case3 l hl t rest ht ih =>
      obtain ⟨more, hmore, rfl⟩ := Option.map_eq_some_iff.1 h
      obtain ⟨hvalid, rfl⟩ := ih hmore
      exact ⟨List.forall_mem_cons.2 ⟨⟨hl, ht⟩, hvalid⟩, by simp [Cell.bytes]⟩
    | case5 b rest hl hb ih =>
      obtain ⟨more, hmore, rfl⟩ := Option.map_eq_some_iff.1 h
      obtain ⟨hvalid, rfl⟩ := ih hmore
      exact ⟨List.forall_mem_cons.2 ⟨hb, hvalid⟩, by simp [Cell.bytes]⟩
    | case2 | case4 | case6 => cases h
  · rintro ⟨hvalid, rfl⟩
    induction cells with
    | nil => rfl
    | cons cell cells ih =>
      rw [List.flatMap_cons, cells?_bytes_append (hvalid cell (by simp)),
        ih fun x hx => hvalid x (by simp [hx])]
      rfl

/-- A name has the double-byte shape if it splits into cells and one of them is a pair. -/
theorem isDoubleByte_iff {b : Bytes} :
    isDoubleByte b = true ↔ ∃ cells, cells? b = some cells ∧ cells.any Cell.isPair = true := by
  rw [isDoubleByte]
  cases h : cells? b with
  | none => simp
  | some cells => simp

/-! ### Text is not GBK -/

/-- A lead byte is not ASCII. -/
theorem le_of_isLead {l : UInt8} (h : isLead l = true) : 0x80 ≤ l := by
  rw [isLead, Bool.and_eq_true, decide_eq_true_eq, UInt8.le_iff_toNat_le] at h
  exact UInt8.le_iff_toNat_le.2 (Nat.le_trans (by decide) h.1)

/-- A name with a pair is not plain ASCII. -/
theorem hasHighByte_of_isDoubleByte {b : Bytes} (h : isDoubleByte b = true) :
    hasHighByte b = true := by
  obtain ⟨cells, hcells, hpair⟩ := isDoubleByte_iff.1 h
  obtain ⟨hvalid, rfl⟩ := cells?_eq_some_iff.1 hcells
  obtain ⟨cell, hmem, hcell⟩ := List.any_eq_true.1 hpair
  cases cell with
  | single x => cases hcell
  | pair l t =>
    have hl : 0x80 ≤ l := le_of_isLead (hvalid _ hmem).1
    have hbyte : l ∈ cells.flatMap Cell.bytes :=
      List.mem_flatMap.2 ⟨_, hmem, List.mem_cons_self⟩
    exact List.any_eq_true.2 ⟨l, hbyte, decide_eq_true hl⟩

/-- **Text is not GBK.** The encoding of a text with a character outside of ASCII has the
    multi-byte shape, and plain ASCII has no pair. -/
theorem isGbkName_of_wellFormed {b : Bytes} (h : Utf8.WellFormed b) : isGbkName b = false := by
  obtain ⟨t, rfl⟩ := h
  cases hdouble : isDoubleByte (Utf8.encode t) with
  | false => rw [isGbkName, hdouble, Bool.and_false]
  | true =>
    -- Its pair has a high byte, so the text has one, and its encoding is made of units.
    have hmulti : isMultiByte (Utf8.encode t) = true := by
      rw [isMultiByte, completes_encode, hasHighByte_of_isDoubleByte hdouble, Bool.and_self]
    rw [isGbkName, hmulti, Bool.not_true, Bool.false_and]

end WifiNames.Shape
