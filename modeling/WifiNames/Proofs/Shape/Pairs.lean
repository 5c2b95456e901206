import WifiNames.Proofs.Shape

namespace WifiNames.Shape

/-!
# Shapes — the grammar of the double-byte pattern

The pattern is a walk that looks one byte ahead.  Trail bytes overlap both ASCII and the lead bytes,
so what a byte is depends on all bytes before it; the grammar says the same without a walk.

* `IsPair`, `IsPairing` — the pairs of the grammar by their ranges, and a name cut into ASCII bytes
  and pairs.
* `isPairing_iff` — a name is cut into the bytes of its cells.
* `IsPairing.isDoubleByte_iff` — a name that is cut has the double-byte shape if it has a pair.
* `IsPairing.append` — names that are cut can be put one behind the other.
* `isDoubleByte_iff_exists_isPairing` — **the pattern accepts exactly what the grammar describes**, and
  how it goes with putting names together.
-/

/-! ### The grammar -/

/-- A lead byte and a trail byte. -/
inductive IsPair : Bytes → Prop where
  | led {lead trail : UInt8} (hlead : 0x81 ≤ lead ∧ lead ≤ 0xFE)
      (htrail : 0x40 ≤ trail ∧ trail ≤ 0xFE) (hne : trail ≠ 0x7F) : IsPair [lead, trail]

/-- A name cut into ASCII bytes and pairs. -/
structure IsPairing (units : List Bytes) (b : Bytes) : Prop where
  /-- Nothing is left over. -/
  flatten_eq : units.flatten = b
  of_mem : ∀ u ∈ units, (∃ a : UInt8, a < 0x80 ∧ u = [a]) ∨ IsPair u

/-! ### The units of the grammar and the cells of the walk -/

/-- The walk asks for the lead bytes of the grammar. -/
theorem isLead_iff {b : UInt8} : isLead b = true ↔ 0x81 ≤ b ∧ b ≤ 0xFE := by
  simp [isLead]

/-- The walk asks for the trail bytes of the grammar. -/
theorem isTrail_iff {b : UInt8} : isTrail b = true ↔ (0x40 ≤ b ∧ b ≤ 0xFE) ∧ b ≠ 0x7F := by
  simp [isTrail]

/-- The grammar has the units that the valid cells are written as. -/
theorem exists_isValid_iff {u : Bytes} :
    (∃ cell : Cell, cell.IsValid ∧ cell.bytes = u) ↔
      (∃ a : UInt8, a < 0x80 ∧ u = [a]) ∨ IsPair u := by
  constructor
  · rintro ⟨cell, hvalid, rfl⟩
    cases cell with
    | single a => exact Or.inl ⟨a, hvalid, rfl⟩
    | pair l t =>
      obtain ⟨htrail, hne⟩ := isTrail_iff.1 hvalid.2
      exact Or.inr (.led (isLead_iff.1 hvalid.1) htrail hne)
  · rintro (⟨a, ha, rfl⟩ | hu)
    · exact ⟨.single a, ha, rfl⟩
    · cases hu with
      | @led l t hlead htrail hne =>
        exact ⟨.pair l t, ⟨isLead_iff.2 hlead, isTrail_iff.2 ⟨htrail, hne⟩⟩, rfl⟩

/-- A valid cell is a pair exactly if its bytes are. -/
theorem Cell.IsValid.isPair_iff {cell : Cell} (h : cell.IsValid) :
    cell.isPair = true ↔ IsPair cell.bytes := by
  cases cell with
  | single b =>
    simp only [Cell.isPair, Bool.false_eq_true, false_iff, Cell.bytes]
    intro hpair
    cases hpair
  | pair l t =>
    obtain ⟨htrail, hne⟩ := isTrail_iff.1 h.2
    exact iff_of_true rfl (.led (isLead_iff.1 h.1) htrail hne)

/-- **Cells and units.** A name is cut into the bytes of its cells, and in no other way. -/
theorem isPairing_iff {units : List Bytes} {b : Bytes} :
    IsPairing units b ↔ ∃ cells, cells? b = some cells ∧ cells.map Cell.bytes = units := by
  constructor
  · rintro ⟨rfl, hunits⟩
    -- Unit by unit, since a valid cell is split off whole.
    induction units with
    | nil => exact ⟨[], rfl, rfl⟩
    | cons u units ih =>
      obtain ⟨hu, hrest⟩ := List.forall_mem_cons.1 hunits
      obtain ⟨cell, hvalid, rfl⟩ := exists_isValid_iff.2 hu
      obtain ⟨cells, hcells, rfl⟩ := ih hrest
      refine ⟨cell :: cells, ?_, rfl⟩
      rw [List.flatten_cons, cells?_bytes_append hvalid, hcells]
      rfl
  · rintro ⟨cells, hcells, rfl⟩
    obtain ⟨hvalid, rfl⟩ := cells?_eq_some_iff.1 hcells
    refine ⟨List.flatMap_def.symm, ?_⟩
    intro u hu
    obtain ⟨cell, hmem, rfl⟩ := List.mem_map.1 hu
    exact exists_isValid_iff.1 ⟨cell, hvalid cell hmem, rfl⟩

namespace IsPairing

variable {units others : List Bytes} {b c : Bytes}

/-- **One split.** A name can be cut in one way only. -/
theorem unique (h : IsPairing units b) (h' : IsPairing others b) : units = others := by
  obtain ⟨cells, hcells, rfl⟩ := isPairing_iff.1 h
  obtain ⟨more, hmore, rfl⟩ := isPairing_iff.1 h'
  rw [Option.some.inj (hcells.symm.trans hmore)]

/-- A name that is cut has the double-byte shape exactly if one of its units is a pair. -/
theorem isDoubleByte_iff (h : IsPairing units b) : isDoubleByte b = true ↔ ∃ u ∈ units, IsPair u := by
  obtain ⟨cells, hcells, rfl⟩ := isPairing_iff.1 h
  have hvalid := (cells?_eq_some_iff.1 hcells).1
  simp only [isDoubleByte, hcells, List.any_eq_true]
  constructor
  · rintro ⟨cell, hmem, hpair⟩
    exact ⟨cell.bytes, List.mem_map_of_mem hmem, (hvalid cell hmem).isPair_iff.1 hpair⟩
  · rintro ⟨u, hu, hpair⟩
    obtain ⟨cell, hmem, rfl⟩ := List.mem_map.1 hu
    exact ⟨cell, hmem, (hvalid cell hmem).isPair_iff.2 hpair⟩

/-- Names that are cut can be put one behind the other. -/
theorem append (h : IsPairing units b) (h' : IsPairing others c) :
    IsPairing (units ++ others) (b ++ c) where
  flatten_eq := by rw [List.flatten_append, h.flatten_eq, h'.flatten_eq]
  of_mem := List.forall_mem_append.2 ⟨h.of_mem, h'.of_mem⟩

/-- ASCII bytes stand for themselves. -/
theorem of_ascii (h : ∀ a ∈ b, a < 0x80) : IsPairing (b.map fun a => [a]) b where
  flatten_eq := by induction b <;> simp_all
  of_mem := by
    intro u hu
    obtain ⟨a, ha, rfl⟩ := List.mem_map.1 hu
    exact Or.inl ⟨a, h a ha, rfl⟩

end IsPairing

/-- What has the double-byte shape can be cut. -/
theorem exists_isPairing_of_isDoubleByte {b : Bytes} (h : isDoubleByte b = true) :
    ∃ units, IsPairing units b := by
  obtain ⟨cells, hcells, -⟩ := isDoubleByte_iff.1 h
  exact ⟨_, isPairing_iff.2 ⟨cells, hcells, rfl⟩⟩

/-- What is plain ASCII or has the double-byte shape can be cut. -/
theorem exists_isPairing {b : Bytes} (h : (∀ a ∈ b, a < 0x80) ∨ isDoubleByte b = true) :
    ∃ units, IsPairing units b := by
  rcases h with hascii | hdouble
  · exact ⟨_, .of_ascii hascii⟩
  · exact exists_isPairing_of_isDoubleByte hdouble

/-- **The double-byte grammar.** A name follows the pattern exactly if it can be cut into ASCII bytes
    and pairs with at least one pair among them; and whatever can be so cut can be cut in one way
    only.  Of two names that are plain ASCII or follow the pattern, one behind the other follows it
    exactly if one of them does. -/
theorem isDoubleByte_iff_exists_isPairing (b : Bytes) :
    (isDoubleByte b = true ↔ ∃ units, IsPairing units b ∧ ∃ u ∈ units, IsPair u) ∧
    (∀ units others, IsPairing units b → IsPairing others b → units = others) ∧
    ∀ a c : Bytes, (∀ x ∈ a, x < 0x80) ∨ isDoubleByte a = true →
      (∀ x ∈ c, x < 0x80) ∨ isDoubleByte c = true →
      (isDoubleByte (a ++ c) = true ↔ isDoubleByte a = true ∨ isDoubleByte c = true) := by
  refine ⟨?_, ?_, ?_⟩
  · constructor
    · intro h
      obtain ⟨units, hunits⟩ := exists_isPairing_of_isDoubleByte h
      exact ⟨units, hunits, hunits.isDoubleByte_iff.1 h⟩
    · rintro ⟨units, hunits, hpair⟩
      exact hunits.isDoubleByte_iff.2 hpair
  · intro units others h h'
    exact h.unique h'
  · intro a c ha hc
    obtain ⟨units, hunits⟩ := exists_isPairing ha
    obtain ⟨others, hothers⟩ := exists_isPairing hc
    -- Both are cut, so a pair of the whole is a pair of the one or of the other.
    rw [(hunits.append hothers).isDoubleByte_iff, hunits.isDoubleByte_iff,
      hothers.isDoubleByte_iff]
    simp only [List.mem_append, or_and_right, exists_or]

/-- A letter and a pair whose trail byte is a letter too: the pattern holds by this split, there is no
    other one, and with a plain name behind it the pattern still holds. -/
theorem isDoubleByte_iff_exists_isPairing_of_letter :
    let b : Bytes := [0x41, 0xD6, 0x41]
    let units : List Bytes := [[0x41], [0xD6, 0x41]]
    IsPairing units b ∧ isDoubleByte b = true ∧ (∀ others, IsPairing others b → others = units) ∧
      isDoubleByte (b ++ [0x41]) = true := by
  intro b units
  have hpair : IsPair [0xD6, 0x41] := .led (by decide) (by decide) (by decide)
  have hsplit : IsPairing units b := by
    refine ⟨rfl, ?_⟩
    intro u hu
    rcases List.mem_cons.1 hu with rfl | hu
    · exact Or.inl ⟨0x41, by decide, rfl⟩
    · rw [List.mem_singleton.1 hu]
      exact Or.inr hpair
  obtain ⟨hiff, hunique, happend⟩ := isDoubleByte_iff_exists_isPairing b
  have hdouble : isDoubleByte b = true := hiff.2 ⟨units, hsplit, _, by simp [units], hpair⟩
  refine ⟨hsplit, hdouble, ?_, ?_⟩
  · intro others hothers
    exact hunique others units hothers hsplit
  · have hascii : ∀ x ∈ [(0x41 : UInt8)], x < 0x80 := List.forall_mem_singleton.2 (by decide)
    exact (happend b [0x41] (Or.inr hdouble) (Or.inl hascii)).2 (Or.inl hdouble)

end WifiNames.Shape
