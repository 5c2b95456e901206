import Mathlib.Data.List.Nodup
import WifiNames.History
import WifiNames.Proofs.Shape

namespace WifiNames

/-!
# Histories — what is kept and what is found

* `firstPerRaw`, `find?_firstPerRaw` — of pairs that were to be remembered, the first one for each
  raw name.
* `History.entries_addAll` — a history that is to remember pairs appends exactly those.
* `History.addAll_addAll_self` — to remember them again changes nothing.
* `IsEarliest` — the oldest entry with a given converted form.
* `History.lookup?_raw`, `History.exists_lookup?_converted` — what a name finds in either
  direction.
* `History.exists_mem_of_lookup?_raw`, `History.exists_mem_of_lookup?_converted` — the entry that
  it finds.
* `History.lookup?_addAll` — what is found once is found still when more is remembered.
-/

/-- Of pairs in the order of their arrival, the first one for each raw name. -/
def firstPerRaw : List Entry → List Entry
  | [] => []
  | e :: rest => e :: (firstPerRaw rest).filter (·.raw != e.raw)

/-- The oldest of the given entries with the converted form `u`. -/
def IsEarliest (entries : List Entry) (u : Bytes) (e : Entry) : Prop :=
  e.converted = u ∧
    ∃ before after, entries = before ++ e :: after ∧ ∀ x ∈ before, x.converted ≠ u

/-- The earliest entry with a converted form is the first one that a search finds. -/
theorem isEarliest_iff {entries : List Entry} {u : Bytes} {e : Entry} :
    IsEarliest entries u e ↔ entries.find? (·.converted == u) = some e := by
  rw [IsEarliest, List.find?_eq_some_iff_append, beq_iff_eq]
  simp only [Bool.not_eq_true', beq_eq_false_iff_ne, ne_eq]

theorem IsEarliest.mem {entries : List Entry} {u : Bytes} {e : Entry}
    (h : IsEarliest entries u e) : e ∈ entries := by
  obtain ⟨-, before, after, rfl, -⟩ := h
  exact List.mem_append_right _ List.mem_cons_self

/-- Where an entry has the form `u`, the earliest one is that entry or stands before it. -/
theorem IsEarliest.mem_or_eq {before after : List Entry} {e first : Entry} {u : Bytes}
    (h : IsEarliest (before ++ e :: after) u first) (he : e.converted = u) :
    first ∈ before ∨ first = e ∧ ∀ x ∈ before, x.converted ≠ u := by
  have hhead : (e :: after).find? (·.converted == u) = some e :=
    List.find?_cons_of_pos (by simpa using he)
  rw [isEarliest_iff, List.find?_append, hhead] at h
  -- If the search does not end before the entry, it ends with it.
  cases hx : before.find? (·.converted == u) with
  | some x =>
    rw [hx, Option.some_or, Option.some.injEq] at h
    exact Or.inl (h ▸ List.mem_of_find?_eq_some hx)
  | none =>
    rw [hx, Option.none_or, Option.some.injEq] at h
    refine Or.inr ⟨h.symm, fun x hmem => ?_⟩
    simpa using List.find?_eq_none.1 hx x hmem

/-! ### The first pair for each raw name -/

theorem mem_of_mem_firstPerRaw {e : Entry} {pairs : List Entry} (h : e ∈ firstPerRaw pairs) :
    e ∈ pairs := by
  induction pairs with
  | nil => exact h
  | cons p rest ih =>
    rcases List.mem_cons.1 h with rfl | h
    · exact List.mem_cons_self
    · exact List.mem_cons_of_mem _ (ih (List.mem_filter.1 h).1)

/-- No raw name keeps two pairs. -/
theorem nodup_firstPerRaw (pairs : List Entry) : ((firstPerRaw pairs).map Entry.raw).Nodup := by
  induction pairs with
  | nil => exact List.nodup_nil
  | cons e rest ih =>
    rw [firstPerRaw, List.map_cons, List.nodup_cons]
    constructor
    · -- Later pairs with this raw name were filtered out.
      intro h
      obtain ⟨x, hx, hraw⟩ := List.mem_map.1 h
      exact bne_iff_ne.1 (List.mem_filter.1 hx).2 hraw
    · exact ih.sublist (List.filter_sublist.map Entry.raw)

/-- The pair kept for a raw name is the first one with it. -/
theorem find?_firstPerRaw (pairs : List Entry) (raw : Bytes) :
    (firstPerRaw pairs).find? (·.raw == raw) = pairs.find? (·.raw == raw) := by
  induction pairs with
  | nil => rfl
  | cons e rest ih =>
    rw [firstPerRaw, List.find?_cons, List.find?_cons, List.find?_filter]
    cases heq : e.raw == raw with
    | true => rfl
    | false =>
      -- What `e` rules out has another raw name.
      have hsame : (fun x : Entry => decide ((x.raw != e.raw) = true ∧ (x.raw == raw) = true))
          = (·.raw == raw) := by
        funext x
        by_cases hx : x.raw = raw
        · simp [hx, bne_iff_ne, Ne.symm (beq_eq_false_iff_ne.1 heq)]
        · simp [hx]
      rw [hsame]
      exact ih

namespace History

/-! ### Remembering -/

/-- A history tells whether a pair was new. -/
theorem value_insert (h : History) (raw converted : Bytes) :
    (h.insert raw converted).value = (!h.knows raw, h.add raw converted) := by
  rw [insert]
  cases hk : h.knows raw with
  | true => rw [add, if_pos rfl, if_pos hk]; rfl
  | false => rfl

/-- Remembers pairs one after the other. -/
def addAll (h : History) (pairs : List Entry) : History :=
  pairs.foldl (fun h e => h.add e.raw e.converted) h

@[simp] theorem addAll_nil (h : History) : h.addAll [] = h := rfl

@[simp] theorem addAll_cons (h : History) (e : Entry) (rest : List Entry) :
    h.addAll (e :: rest) = (h.add e.raw e.converted).addAll rest := rfl

theorem addAll_append (h : History) (a b : List Entry) :
    h.addAll (a ++ b) = (h.addAll a).addAll b :=
  List.foldl_append

/-- After a pair is remembered, its raw name is known, and so is what was known before. -/
theorem knows_add (h : History) (e : Entry) (raw : Bytes) :
    (h.add e.raw e.converted).knows raw = (h.knows raw || e.raw == raw) := by
  by_cases hk : h.knows e.raw = true
  · rw [add, if_pos hk]
    -- The pair adds nothing, since its raw name is known; another name is not concerned.
    by_cases heq : e.raw = raw
    · rw [← heq, hk, Bool.true_or]
    · rw [beq_eq_false_iff_ne.2 heq, Bool.or_false]
  · rw [add, if_neg hk]
    simp [knows, List.any_append]

/-- After pairs are remembered, their raw names are known, and so is what was known before. -/
theorem knows_addAll (h : History) (pairs : List Entry) (raw : Bytes) :
    (h.addAll pairs).knows raw = (h.knows raw || pairs.any (·.raw == raw)) := by
  induction pairs generalizing h with
  | nil => exact (Bool.or_false _).symm
  | cons e rest ih => rw [addAll_cons, ih, knows_add, List.any_cons, Bool.or_assoc]

/-- Pairs whose raw names are known change nothing. -/
theorem addAll_of_knows {h : History} {pairs : List Entry}
    (hknown : ∀ e ∈ pairs, h.knows e.raw = true) : h.addAll pairs = h := by
  induction pairs with
  | nil => rfl
  | cons e rest ih =>
    obtain ⟨he, hrest⟩ := List.forall_mem_cons.1 hknown
    rw [addAll_cons, add, if_pos he, ih hrest]

/-- To remember the same pairs again changes nothing. -/
theorem addAll_addAll_self (h : History) (pairs : List Entry) :
    (h.addAll pairs).addAll pairs = h.addAll pairs := by
  refine addAll_of_knows fun e he => ?_
  -- After the first time, the raw names of all of the pairs are known.
  have hany : pairs.any (·.raw == e.raw) = true := List.any_eq_true.2 ⟨e, he, BEq.rfl⟩
  rw [knows_addAll, hany, Bool.or_true]

/-- **What is kept.** Of pairs to be remembered a history appends the first one for each raw name
    that it does not know yet. -/
theorem entries_addAll (h : History) (pairs : List Entry) :
    (h.addAll pairs).entries = h.entries ++ (firstPerRaw pairs).filter (!h.knows ·.raw) := by
  induction pairs generalizing h with
  | nil => simp [firstPerRaw]
  | cons e rest ih =>
    rw [addAll_cons, ih, firstPerRaw, List.filter_cons, List.filter_filter]
    -- The entries that `e` rules out are those with its raw name.
    have hrest : (fun x : Entry => !(h.add e.raw e.converted).knows x.raw)
        = fun x => (!h.knows x.raw) && x.raw != e.raw := by
      funext x
      rw [knows_add, Bool.not_or, bne_comm, bne]
    rw [hrest]
    cases hk : h.knows e.raw with
    | true =>
      rw [add, if_pos hk]
      rfl
    | false =>
      rw [add, if_neg (by simp [hk])]
      simp

/-- A history that starts from nothing holds the first pair for each raw name. -/
theorem empty_addAll (pairs : List Entry) : empty.addAll pairs = ⟨firstPerRaw pairs⟩ := by
  have h := entries_addAll empty pairs
  rw [History.mk.injEq]
  simpa [empty, knows] using h

/-- A raw name that was to be remembered has an entry. -/
theorem exists_mem_add (h : History) (raw converted : Bytes) :
    ∃ e ∈ (h.add raw converted).entries, e.raw = raw := by
  cases hk : h.knows raw with
  | true =>
    obtain ⟨e, he, hraw⟩ := List.any_eq_true.1 hk
    rw [add, if_pos hk]
    exact ⟨e, he, beq_iff_eq.1 hraw⟩
  | false =>
    rw [add, if_neg (by simp [hk])]
    exact ⟨⟨raw, converted⟩, List.mem_append_right _ (List.mem_singleton_self _), rfl⟩

/-! ### Looking up -/

/-- A GBK name that is the raw name of an entry finds the converted form. -/
theorem lookup?_raw {h : History} (hnodup : (h.entries.map Entry.raw).Nodup) {e : Entry}
    (he : e ∈ h.entries) (hgbk : isGbkName e.raw = true) : h.lookup? e.raw = some e.converted := by
  have hfind : h.entries.find? (·.raw == e.raw) = some e := by
    -- Whatever entry is found has the raw name of `e`, and no two entries share one.
    cases hx : h.entries.find? (·.raw == e.raw) with
    | none => exact absurd BEq.rfl (List.find?_eq_none.1 hx e he)
    | some x =>
      have hraw : x.raw = e.raw := by simpa using List.find?_some hx
      rw [List.inj_on_of_nodup_map hnodup (List.mem_of_find?_eq_some hx) he hraw]
  rw [lookup?, if_pos hgbk, hfind, Option.map_some]

/-- The converted form of an entry, unless it is itself a GBK name, finds the raw name of the
    earliest entry with that form. -/
theorem exists_lookup?_converted {h : History} {e : Entry} (he : e ∈ h.entries)
    (hgbk : isGbkName e.converted = false) :
    ∃ first, IsEarliest h.entries e.converted first ∧ h.lookup? e.converted = some first.raw := by
  cases hx : h.entries.find? (·.converted == e.converted) with
  | none => exact absurd BEq.rfl (List.find?_eq_none.1 hx e he)
  | some first =>
    refine ⟨first, isEarliest_iff.2 hx, ?_⟩
    rw [lookup?, hgbk, if_neg Bool.false_ne_true, hx, Option.map_some]

/-- What a GBK name finds is the converted form of an entry for it. -/
theorem exists_mem_of_lookup?_raw {h : History} {query found : Bytes}
    (hgbk : isGbkName query = true) (hfound : h.lookup? query = some found) :
    ∃ e ∈ h.entries, e.raw = query ∧ e.converted = found := by
  rw [lookup?, if_pos hgbk, Option.map_eq_some_iff] at hfound
  obtain ⟨e, he, hconverted⟩ := hfound
  have hraw : e.raw = query := by simpa using List.find?_some he
  exact ⟨e, List.mem_of_find?_eq_some he, hraw, hconverted⟩

/-- What any other name finds is the raw name of an entry with that converted form. -/
theorem exists_mem_of_lookup?_converted {h : History} {query found : Bytes}
    (hgbk : isGbkName query = false) (hfound : h.lookup? query = some found) :
    ∃ e ∈ h.entries, e.converted = query ∧ e.raw = found := by
  rw [lookup?, hgbk, if_neg Bool.false_ne_true, Option.map_eq_some_iff] at hfound
  obtain ⟨e, he, hraw⟩ := hfound
  have hconverted : e.converted = query := by simpa using List.find?_some he
  exact ⟨e, List.mem_of_find?_eq_some he, hconverted, hraw⟩

/-- What a name finds, it finds still when more is remembered. -/
theorem lookup?_addAll {h : History} {query found : Bytes} (hfound : h.lookup? query = some found)
    (pairs : List Entry) : (h.addAll pairs).lookup? query = some found := by
  rw [lookup?] at hfound ⊢
  rw [entries_addAll, List.find?_append, List.find?_append]
  -- Pairs are appended, so a search that ends among the old entries ends there still.
  split at hfound
  · rename_i hgbk
    obtain ⟨e, he, rfl⟩ := Option.map_eq_some_iff.1 hfound
    rw [if_pos hgbk, he, Option.some_or, Option.map_some]
  · rename_i hgbk
    obtain ⟨e, he, rfl⟩ := Option.map_eq_some_iff.1 hfound
    rw [if_neg hgbk, he, Option.some_or, Option.map_some]

end History

end WifiNames
