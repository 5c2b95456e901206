import Mathlib.Data.List.Basic
import WifiNames.Proofs.Shape

namespace WifiNames.Shape

/-!
# Shapes — names made of units

The multi-byte pattern accepts exactly what is made of units.  Strict UTF-8 is made of units too,
but of some kinds of them only.

* `exists_units_of_completes`, `completes_iff` — the walk accepts whole units and nothing else.
* `IsUnit.append_inj` — units can be told apart from what follows, so a name is made of them in
  one way only.
* `IsStray`, `isForm_iff_not_isStray` — the units that strict UTF-8 leaves out.
* `wellFormed_flatten_iff` — a name made of units is strict UTF-8 exactly if none of them is stray.
-/

/-! ### The walk and its units -/

/-- What the walk accepts is the pending continuation bytes and then units. -/
theorem exists_units_of_completes {n : Nat} {b : Bytes} (h : completes n b = true) :
    ∃ (tail : Bytes) (units : List Bytes), tail.length = n ∧
      (∀ x ∈ tail, isContinuation x = true) ∧ (∀ u ∈ units, IsUnit u) ∧
      tail ++ units.flatten = b := by
  -- A lead byte makes a unit with the pending bytes that the rest begins with.
  fun_induction completes n b with
  | case1 => exact ⟨[], [], rfl, by simp, by simp, rfl⟩
  | case2 => cases h
  | case3 b rest hb ih =>
    obtain ⟨tail, units, htail, -, hunits, rfl⟩ := ih h
    obtain rfl := List.length_eq_zero_iff.1 htail
    exact ⟨[], [b] :: units, rfl, by simp, List.forall_mem_cons.2 ⟨.ascii hb, hunits⟩, rfl⟩
  | case4 b rest hb n hlead ih =>
    obtain ⟨tail, units, rfl, htail, hunits, rfl⟩ := ih h
    have hunit : IsUnit (b :: tail) := .led hlead htail
    exact ⟨[], (b :: tail) :: units, rfl, by simp, List.forall_mem_cons.2 ⟨hunit, hunits⟩, rfl⟩
  | case5 => cases h
  | case6 n b rest ih =>
    obtain ⟨hb, hrest⟩ := Bool.and_eq_true_iff.1 h
    obtain ⟨tail, units, rfl, htail, hunits, rfl⟩ := ih hrest
    exact ⟨b :: tail, units, rfl, List.forall_mem_cons.2 ⟨hb, htail⟩, hunits, rfl⟩

/-- **The walk accepts what is made of units.** -/
theorem completes_iff {b : Bytes} :
    completes 0 b = true ↔ ∃ units : List Bytes, (∀ u ∈ units, IsUnit u) ∧ units.flatten = b := by
  constructor
  · intro h
    obtain ⟨tail, units, htail, -, hunits, hb⟩ := exists_units_of_completes h
    obtain rfl := List.length_eq_zero_iff.1 htail
    exact ⟨units, hunits, hb⟩
  · rintro ⟨units, hunits, rfl⟩
    induction units with
    | nil => rfl
    | cons u units ih =>
      obtain ⟨hu, hrest⟩ := List.forall_mem_cons.1 hunits
      rw [List.flatten_cons, completes_append hu, ih hrest]

/-- A name of double-byte shape has the multi-byte shape too exactly if it is made of units. -/
theorem isMultiByte_iff_of_isDoubleByte {b : Bytes} (hb : isDoubleByte b = true) :
    isMultiByte b = true ↔ ∃ units : List Bytes, (∀ u ∈ units, IsUnit u) ∧ units.flatten = b := by
  rw [isMultiByte, hasHighByte_of_isDoubleByte hb, Bool.and_true, completes_iff]

/-- The first byte of a unit tells where the unit ends. -/
theorem IsUnit.append_inj {u v x y : Bytes} (hu : IsUnit u) (hv : IsUnit v)
    (h : u ++ x = v ++ y) : u = v ∧ x = y := by
  -- The first byte is ASCII and stands alone, or says how many bytes follow.
  have hlength : u.length = v.length := by
    cases hu with
    | ascii hb =>
      cases hv with
      | ascii => rfl
      | led hlead =>
        obtain rfl := List.head_eq_of_cons_eq h
        exact absurd hb (not_lt_of_tailLength? hlead)
    | led hlead =>
      cases hv with
      | ascii hb =>
        obtain rfl := List.head_eq_of_cons_eq h
        exact absurd hb (not_lt_of_tailLength? hlead)
      | led hlead' =>
        obtain rfl := List.head_eq_of_cons_eq h
        rw [List.length_cons, List.length_cons, Option.some.inj (hlead.symm.trans hlead')]
  exact List.append_inj h hlength

/-! ### Stray units -/

/-- The units that strict UTF-8 leaves out. -/
inductive IsStray : Bytes → Prop where
  /-- Two bytes for a character that takes one. -/
  | overlong₂ {lead : UInt8} {tail : Bytes} (h : lead.toNat = 0xC0 ∨ lead.toNat = 0xC1) :
    IsStray (lead :: tail)
  /-- Three bytes for a character that takes fewer. -/
  | overlong₃ {b : UInt8} {tail : Bytes} (h : b.toNat < 0xA0) : IsStray (0xE0 :: b :: tail)
  /-- Half of a surrogate pair. -/
  | surrogate {b : UInt8} {tail : Bytes} (h : 0xA0 ≤ b.toNat) : IsStray (0xED :: b :: tail)
  /-- Four bytes for a character that takes fewer. -/
  | overlong₄ {b : UInt8} {tail : Bytes} (h : b.toNat < 0x90) : IsStray (0xF0 :: b :: tail)
  /-- A number just above U+10FFFF. -/
  | large {b : UInt8} {tail : Bytes} (h : 0x90 ≤ b.toNat) : IsStray (0xF4 :: b :: tail)
  /-- A number far above U+10FFFF, or a form of more than four bytes. -/
  | beyond {lead : UInt8} {tail : Bytes} (h : 0xF5 ≤ lead.toNat) : IsStray (lead :: tail)

/-- No form of strict UTF-8 is stray. -/
theorem not_isStray_of_isForm {u : Bytes} (hu : Utf8.IsForm u) : ¬ IsStray u := by
  intro hstray
  cases hu with
  | one ha => cases hstray <;> omega
  | two ha hb => cases hstray with
    | overlong₂ h | beyond h => omega
    | overlong₃ | surrogate | overlong₄ | large => exact absurd ha (by decide)
  -- The second byte is what keeps these two apart from overlong forms and surrogates.
  | three ha hb hc =>
    have hsecond := (Utf8.isSecondOfThree_iff.1 hb).2
    cases hstray with
    | overlong₂ h | beyond h => omega
    | overlong₃ h => exact absurd (hsecond.1 rfl) (Nat.not_le.2 h)
    | surrogate h => exact absurd (hsecond.2 rfl) (by omega)
    | overlong₄ | large => exact absurd ha (by decide)
  | four ha hb hc hd =>
    have hsecond := (Utf8.isSecondOfFour_iff.1 hb).2
    cases hstray with
    | overlong₂ h | beyond h => omega
    | overlong₃ | surrogate => exact absurd ha (by decide)
    | overlong₄ h => exact absurd (hsecond.1 rfl) (Nat.not_le.2 h)
    | large h => exact absurd (hsecond.2 rfl) (by omega)

/-- **Stray or strict.** A unit is a form of strict UTF-8 unless it is stray. -/
theorem isForm_iff_not_isStray {u : Bytes} (hu : IsUnit u) : Utf8.IsForm u ↔ ¬ IsStray u := by
  refine ⟨not_isStray_of_isForm, fun hstray => ?_⟩
  cases hu with
  | ascii hb => exact .one (UInt8.lt_iff_toNat_lt.1 hb)
  | @led lead tail hlead htail =>
    have hlo : 0xC0 ≤ lead.toNat := le_of_tailLength? hlead
    have hhi : lead.toNat < 0xF5 := Nat.not_le.1 fun h => hstray (.beyond h)
    have hlong : ¬ (lead.toNat = 0xC0 ∨ lead.toNat = 0xC1) := fun h => hstray (.overlong₂ h)
    have hlength := Option.some.inj (hlead.symm.trans (tailLength?_eq hlo (by omega)))
    have htails : ∀ b ∈ tail, Utf8.isTail b = true :=
      fun b hb => isContinuation_iff_isTail.1 (htail b hb)
    -- The lead byte says how many bytes there are.
    by_cases htwo : lead.toNat < 0xE0
    · rw [if_pos htwo] at hlength
      obtain ⟨b, rfl⟩ := List.length_eq_one_iff.1 hlength
      exact .two (by omega) (htails b (by simp))
    · by_cases hthree : lead.toNat < 0xF0
      · rw [if_neg htwo, if_pos hthree] at hlength
        obtain ⟨b, c, rfl⟩ := List.length_eq_two.1 hlength
        refine .three (by omega) ?_ (htails c (by simp))
        refine Utf8.isSecondOfThree_iff.2 ⟨htails b (by simp), fun h => ?_, fun h => ?_⟩
        · obtain rfl : lead = 0xE0 := UInt8.toNat_inj.1 h
          exact Nat.not_lt.1 fun hb => hstray (.overlong₃ hb)
        · obtain rfl : lead = 0xED := UInt8.toNat_inj.1 h
          exact Nat.le_of_lt_succ (Nat.not_le.1 fun hb => hstray (.surrogate hb))
      · rw [if_neg htwo, if_neg hthree] at hlength
        obtain ⟨b, c, d, rfl⟩ := List.length_eq_three.1 hlength
        refine .four (by omega) ?_ (htails c (by simp)) (htails d (by simp))
        refine Utf8.isSecondOfFour_iff.2 ⟨htails b (by simp), fun h => ?_, fun h => ?_⟩
        · obtain rfl : lead = 0xF0 := UInt8.toNat_inj.1 h
          exact Nat.not_lt.1 fun hb => hstray (.overlong₄ hb)
        · obtain rfl : lead = 0xF4 := UInt8.toNat_inj.1 h
          exact Nat.le_of_lt_succ (Nat.not_le.1 fun hb => hstray (.large hb))

/-- **Strict UTF-8 in units.** A name made of units is strict UTF-8 exactly if no unit is stray. -/
theorem wellFormed_flatten_iff {units : List Bytes} (hunits : ∀ u ∈ units, IsUnit u) :
    Utf8.WellFormed units.flatten ↔ ∀ u ∈ units, ¬ IsStray u := by
  constructor
  · -- The units are the encodings of the characters, one by one.
    rintro ⟨t, ht⟩
    induction units generalizing t with
    | nil => simp
    | cons u units ih =>
      obtain ⟨hu, hrest⟩ := List.forall_mem_cons.1 hunits
      rw [List.flatten_cons] at ht
      cases t with
      | nil =>
        have hnil : u = [] := (List.append_eq_nil_iff.1 ht.symm).1
        subst hnil
        cases hu
      | cons c t =>
        rw [Utf8.encode_cons] at ht
        obtain ⟨rfl, hmore⟩ := (isUnit_utf8EncodeChar c).append_inj hu ht
        have hc := not_isStray_of_isForm (Utf8.isForm_utf8EncodeChar c)
        exact List.forall_mem_cons.2 ⟨hc, ih hrest t hmore⟩
  · intro hstrict
    induction units with
    | nil => exact ⟨[], rfl⟩
    | cons u units ih =>
      obtain ⟨hu, hrest⟩ := List.forall_mem_cons.1 hunits
      obtain ⟨hnot, hmore⟩ := List.forall_mem_cons.1 hstrict
      obtain ⟨c, hc⟩ := Utf8.isForm_iff.1 ((isForm_iff_not_isStray hu).2 hnot)
      obtain ⟨t, ht⟩ := ih hrest hmore
      refine ⟨c :: t, ?_⟩
      rw [Utf8.encode_cons, hc, ht, List.flatten_cons]

end WifiNames.Shape
