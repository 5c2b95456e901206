import WifiNames.Proofs.Shape.Units

namespace WifiNames.Shape

/-!
# Shapes — the grammar of the multi-byte pattern

The pattern is a walk that counts pending bytes.  The grammar does not count: it lists the lead
bytes by their ranges and says what a name is cut into.

* `Announces`, `announces_iff` — the ranges of lead bytes, and how many bytes have to follow.
* `IsSequence`, `IsSplit` — the units of the grammar, and a name cut into units.
* `isUnit_iff` — these are the units that the walk passes over.
* `IsSplit.unique` — a name can be cut in one way only.
* `isMultiByte_iff_exists_isSplit` — **the pattern accepts exactly what the grammar describes.**
-/

/-! ### The grammar -/

/-- The lead bytes, by the number of bytes from `80` to `BF` that have to follow.  `FE` and `FF`
    go with the five-byte forms and not with the six-byte ones. -/
inductive Announces (lead : UInt8) : Nat → Prop where
  | one (h : 0xC0 ≤ lead ∧ lead ≤ 0xDF) : Announces lead 1
  | two (h : 0xE0 ≤ lead ∧ lead ≤ 0xEF) : Announces lead 2
  | three (h : 0xF0 ≤ lead ∧ lead ≤ 0xF7) : Announces lead 3
  | four (h : 0xF8 ≤ lead ∧ lead ≤ 0xFB ∨ 0xFE ≤ lead) : Announces lead 4
  | five (h : 0xFC ≤ lead ∧ lead ≤ 0xFD) : Announces lead 5

/-- A lead byte with exactly as many bytes from `80` to `BF` as it announces. -/
inductive IsSequence : Bytes → Prop where
  | led {lead : UInt8} {tail : Bytes} (hlead : Announces lead tail.length)
      (htail : ∀ b ∈ tail, 0x80 ≤ b ∧ b ≤ 0xBF) : IsSequence (lead :: tail)

/-- A name cut into ASCII bytes and sequences. -/
structure IsSplit (units : List Bytes) (b : Bytes) : Prop where
  /-- Nothing is left over. -/
  flatten_eq : units.flatten = b
  of_mem : ∀ u ∈ units, (∃ a : UInt8, a < 0x80 ∧ u = [a]) ∨ IsSequence u

/-! ### The units of the grammar and those of the walk -/

/-- The walk counts with the numbers of the grammar. -/
theorem announces_iff {lead : UInt8} {n : Nat} : Announces lead n ↔ tailLength? lead = some n := by
  constructor
  · intro h
    simp only [tailLength?, UInt8.lt_iff_toNat_lt, Bool.or_eq_true, beq_iff_eq, ← UInt8.toNat_inj,
      UInt8.reduceToNat]
    -- In each range the branches of `tailLength?` before its own do not apply.
    cases h with
    | one h =>
      simp only [UInt8.le_iff_toNat_le, UInt8.reduceToNat] at h
      rw [if_neg (by omega), if_pos (by omega)]
    | two h =>
      simp only [UInt8.le_iff_toNat_le, UInt8.reduceToNat] at h
      rw [if_neg (by omega), if_neg (by omega), if_pos (by omega)]
    | three h =>
      simp only [UInt8.le_iff_toNat_le, UInt8.reduceToNat] at h
      rw [if_neg (by omega), if_neg (by omega), if_neg (by omega), if_pos (by omega)]
    | four h =>
      simp only [UInt8.le_iff_toNat_le, UInt8.reduceToNat] at h
      rw [if_neg (by omega), if_neg (by omega), if_neg (by omega), if_neg (by omega),
        if_neg (by omega)]
    | five h =>
      simp only [UInt8.le_iff_toNat_le, UInt8.reduceToNat] at h
      rw [if_neg (by omega), if_neg (by omega), if_neg (by omega), if_neg (by omega),
        if_pos (by omega)]
  · intro h
    have hmax := lead.toNat_lt
    -- The branches of `tailLength?` in order; the last one is open above.
    simp only [tailLength?, UInt8.lt_iff_toNat_lt, Bool.or_eq_true, beq_iff_eq, ← UInt8.toNat_inj,
      UInt8.reduceToNat] at h
    -- Below `C0` no byte is a lead byte; above it each branch is one range.
    by_cases hc0 : lead.toNat < 0xC0
    · rw [if_pos hc0] at h
      cases h
    rw [if_neg hc0] at h
    split at h
    · cases h
      exact .one (by simp only [UInt8.le_iff_toNat_le, UInt8.reduceToNat]; omega)
    split at h
    · cases h
      exact .two (by simp only [UInt8.le_iff_toNat_le, UInt8.reduceToNat]; omega)
    split at h
    · cases h
      exact .three (by simp only [UInt8.le_iff_toNat_le, UInt8.reduceToNat]; omega)
    split at h
    · cases h
      exact .five (by simp only [UInt8.le_iff_toNat_le, UInt8.reduceToNat]; omega)
    · cases h
      exact .four (by simp only [UInt8.le_iff_toNat_le, UInt8.reduceToNat]; omega)

/-- The walk looks at two bits, the grammar at a range. -/
theorem isContinuation_iff_mem_range {b : UInt8} :
    isContinuation b = true ↔ 0x80 ≤ b ∧ b ≤ 0xBF := by
  rw [isContinuation_iff]
  simp only [UInt8.le_iff_toNat_le, UInt8.reduceToNat]

/-- The grammar has the units that the walk passes over. -/
theorem isUnit_iff {u : Bytes} :
    IsUnit u ↔ (∃ a : UInt8, a < 0x80 ∧ u = [a]) ∨ IsSequence u := by
  constructor
  · intro hu
    cases hu with
    | ascii hb => exact Or.inl ⟨_, hb, rfl⟩
    | led hlead htail =>
      refine Or.inr (.led (announces_iff.2 hlead) ?_)
      intro b hb
      exact isContinuation_iff_mem_range.1 (htail b hb)
  · rintro (⟨a, ha, rfl⟩ | hu)
    · exact .ascii ha
    · cases hu with
      | led hlead htail =>
        refine .led (announces_iff.1 hlead) ?_
        intro b hb
        exact isContinuation_iff_mem_range.2 (htail b hb)

theorem IsSplit.isUnit {units : List Bytes} {b : Bytes} (h : IsSplit units b) :
    ∀ u ∈ units, IsUnit u := by
  intro u hu
  exact isUnit_iff.2 (h.of_mem u hu)

/-! ### One split at most -/

/-- Units that make up the same bytes are the same units. -/
theorem eq_of_flatten_eq {units others : List Bytes} (hunits : ∀ u ∈ units, IsUnit u)
    (hothers : ∀ u ∈ others, IsUnit u) (h : units.flatten = others.flatten) : units = others := by
  induction units generalizing others with
  | nil =>
    cases others with
    | nil => rfl
    | cons v others =>
      have hv : v = [] := by
        rw [List.flatten_nil, List.flatten_cons] at h
        exact (List.append_eq_nil_iff.1 h.symm).1
      have hunit := hothers v List.mem_cons_self
      -- No unit is empty.
      rw [hv] at hunit
      cases hunit
  | cons u units ih =>
    have hu := hunits u List.mem_cons_self
    cases others with
    | nil =>
      rw [List.flatten_nil, List.flatten_cons] at h
      rw [(List.append_eq_nil_iff.1 h).1] at hu
      cases hu
    | cons v others =>
      have hv := hothers v List.mem_cons_self
      rw [List.flatten_cons, List.flatten_cons] at h
      -- The first byte tells where the first unit ends, so both lists begin with the same one.
      obtain ⟨rfl, hrest⟩ := hu.append_inj hv h
      have hmore := ih (fun x hx => hunits x (List.mem_cons_of_mem _ hx))
        (fun x hx => hothers x (List.mem_cons_of_mem _ hx)) hrest
      rw [hmore]

/-- **One split.** A name can be cut in one way only. -/
theorem IsSplit.unique {units others : List Bytes} {b : Bytes} (h : IsSplit units b)
    (h' : IsSplit others b) : units = others :=
  eq_of_flatten_eq h.isUnit h'.isUnit (h.flatten_eq.trans h'.flatten_eq.symm)

/-! ### The pattern -/

/-- A sequence begins with a byte outside of ASCII. -/
theorem IsSequence.exists_high {u : Bytes} (h : IsSequence u) : ∃ x ∈ u, 0x80 ≤ x := by
  cases h with
  | @led lead tail hlead htail =>
    have hle := le_of_tailLength? (announces_iff.1 hlead)
    refine ⟨lead, List.mem_cons_self, ?_⟩
    show (0x80 : UInt8).toNat ≤ lead.toNat
    exact Nat.le_trans (by decide) hle

/-- A split name has a byte outside of ASCII exactly if one of its units is a sequence. -/
theorem IsSplit.hasHighByte_iff {units : List Bytes} {b : Bytes} (h : IsSplit units b) :
    hasHighByte b = true ↔ ∃ u ∈ units, IsSequence u := by
  rw [hasHighByte, List.any_eq_true, ← h.flatten_eq]
  constructor
  · rintro ⟨x, hx, hhigh⟩
    obtain ⟨u, hu, hxu⟩ := List.mem_flatten.1 hx
    refine ⟨u, hu, ?_⟩
    -- A unit with a high byte is no single ASCII byte.
    rcases h.of_mem u hu with ⟨a, ha, rfl⟩ | hsequence
    · have hxa : x = a := List.mem_singleton.1 hxu
      have hle : 0x80 ≤ x := of_decide_eq_true hhigh
      rw [hxa] at hle
      exact absurd ha (UInt8.not_lt.2 hle)
    · exact hsequence
  · rintro ⟨u, hu, hsequence⟩
    obtain ⟨x, hx, hhigh⟩ := hsequence.exists_high
    exact ⟨x, List.mem_flatten.2 ⟨u, hu, hx⟩, decide_eq_true hhigh⟩

/-- What the walk accepts can be split, and nothing else can. -/
theorem completes_iff_exists_isSplit {b : Bytes} :
    completes 0 b = true ↔ ∃ units, IsSplit units b := by
  rw [completes_iff]
  constructor
  · rintro ⟨units, hunits, hflatten⟩
    refine ⟨units, hflatten, ?_⟩
    intro u hu
    exact isUnit_iff.1 (hunits u hu)
  · rintro ⟨units, h⟩
    exact ⟨units, h.isUnit, h.flatten_eq⟩

/-- **The multi-byte grammar.** A name follows the pattern exactly if it can be cut into ASCII bytes
    and sequences with at least one sequence among them; and whatever can be cut into ASCII bytes
    and sequences can be so cut in one way only. -/
theorem isMultiByte_iff_exists_isSplit (b : Bytes) :
    (isMultiByte b = true ↔ ∃ units, IsSplit units b ∧ ∃ u ∈ units, IsSequence u) ∧
    ∀ units others, IsSplit units b → IsSplit others b → units = others := by
  constructor
  · rw [isMultiByte, Bool.and_eq_true, completes_iff_exists_isSplit]
    constructor
    · rintro ⟨⟨units, h⟩, hhigh⟩
      exact ⟨units, h, h.hasHighByte_iff.1 hhigh⟩
    · rintro ⟨units, h, hsequence⟩
      exact ⟨⟨units, h⟩, h.hasHighByte_iff.2 hsequence⟩
  · intro units others h h'
    exact h.unique h'

/-- A letter and a five-byte form that `FE` leads: the pattern holds by this split, and there is no
    other one. -/
theorem isMultiByte_iff_exists_isSplit_of_five :
    let b : Bytes := [0x41, 0xFE, 0x80, 0x90, 0xA0, 0xBF]
    let units : List Bytes := [[0x41], [0xFE, 0x80, 0x90, 0xA0, 0xBF]]
    IsSplit units b ∧ isMultiByte b = true ∧ ∀ others, IsSplit others b → others = units := by
  intro b units
  have hsequence : IsSequence [0xFE, 0x80, 0x90, 0xA0, 0xBF] :=
    .led (.four (by decide)) (by simp)
  have hsplit : IsSplit units b := by
    refine ⟨rfl, ?_⟩
    intro u hu
    rcases List.mem_cons.1 hu with rfl | hu
    · exact Or.inl ⟨0x41, by decide, rfl⟩
    · rw [List.mem_singleton.1 hu]
      exact Or.inr hsequence
  obtain ⟨hiff, hunique⟩ := isMultiByte_iff_exists_isSplit b
  refine ⟨hsplit, hiff.2 ⟨units, hsplit, _, by simp [units], hsequence⟩, ?_⟩
  intro others hothers
  exact hunique others units hothers hsplit

end WifiNames.Shape
