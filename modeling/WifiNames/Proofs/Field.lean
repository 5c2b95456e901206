import WifiNames.Proofs.Layout

namespace WifiNames.Scan

open Utf8

/-!
# Fields — the name in a line of scan results

A line of scan results has tabs between its fields, and the whole last field is a name.

* `IsScanResult` — a line cut at its last tab and before the line ends at its end.
* `field?_eq_some_iff` — the name is found in such lines, and in no others.
* `names_of_isScanResult` — it is the only name of its line.
-/

/-- A line that is cut into what stands before its last tab, its last field and the line ends after
    that, where the field has a byte escape. -/
structure IsScanResult (line before field ends : Text) : Prop where
  line_eq : line = before ++ '\t' :: (field ++ ends)
  tab_notMem : '\t' ∉ field
  hasByteEscape_eq : hasByteEscape field = true
  /-- The field goes up to the line ends. -/
  isLineEnd_getLast? : ∀ c ∈ field.getLast?, isLineEnd c = false
  isLineEnd_of_mem : ∀ c ∈ ends, isLineEnd c = true

/-! ### Ends of a text -/

/-- A text of characters that satisfy `p` is dropped whole. -/
theorem dropTrailing_eq_nil {p : Char → Bool} {t : Text} (h : ∀ c ∈ t, p c = true) :
    Text.dropTrailing p t = [] := by
  induction t with
  | nil => rfl
  | cons c t ih =>
    obtain ⟨hc, ht⟩ := List.forall_mem_cons.1 h
    simp only [Text.dropTrailing, ih ht, hc, if_true]

/-- What is left does not end with a character that satisfies `p`. -/
theorem getLast?_dropTrailing (p : Char → Bool) (t : Text) :
    ∀ c ∈ (Text.dropTrailing p t).getLast?, p c = false := by
  fun_induction Text.dropTrailing p t with
  | case1 | case2 => simp
  | case3 c rest _ hc => simpa using hc
  | case4 c rest hne ih =>
    -- The last character of what is left is the last one of what is left of the rest.
    cases hdrop : Text.dropTrailing p rest with
    | nil => exact absurd hdrop hne
    | cons d kept =>
      rw [hdrop] at ih
      rw [List.getLast?_cons_cons]
      exact ih

/-- Only what comes after the last character that does not satisfy `p` is dropped. -/
theorem dropTrailing_append {p : Char → Bool} {t ends : Text} (hlast : ∀ c ∈ t.getLast?, p c = false)
    (hends : ∀ c ∈ ends, p c = true) : Text.dropTrailing p (t ++ ends) = t := by
  induction t with
  | nil => exact dropTrailing_eq_nil hends
  | cons c t ih =>
    -- The last character is kept, so everything before it is kept as well.
    cases t with
    | nil =>
      have hc : p c = false := hlast c rfl
      simp only [List.cons_append, List.nil_append, Text.dropTrailing, dropTrailing_eq_nil hends, hc,
        Bool.false_eq_true, if_false]
    | cons d t =>
      rw [List.getLast?_cons_cons] at hlast
      rw [List.cons_append, Text.dropTrailing, ih hlast]

/-! ### Tabs -/

/-- A text without a tab is not cut, and any other is. -/
theorem splitLastTab?_eq_none_iff {t : Text} : splitLastTab? t = none ↔ '\t' ∉ t := by
  induction t with
  | nil => simp [splitLastTab?]
  | cons c t ih =>
    rw [List.mem_cons, not_or, ← ih, splitLastTab?]
    cases splitLastTab? t with
    | some cut => simp
    | none =>
      by_cases hc : c = '\t'
      · simp [hc]
      · simp [hc, Ne.symm hc]

/-- A text is cut at a tab that has no other one after it. -/
theorem splitLastTab?_append (before : Text) {rest : Text} (h : '\t' ∉ rest) :
    splitLastTab? (before ++ '\t' :: rest) = some (before ++ ['\t'], rest) := by
  induction before with
  | nil => simp only [List.nil_append, splitLastTab?, splitLastTab?_eq_none_iff.2 h, if_true]
  | cons c before ih => simp only [List.cons_append, splitLastTab?, ih]

/-- A text is cut right after a tab, and no tab comes after that. -/
theorem of_splitLastTab? {t front rest : Text} (h : splitLastTab? t = some (front, rest)) :
    (∃ before, front = before ++ ['\t']) ∧ '\t' ∉ rest := by
  fun_induction splitLastTab? t generalizing front rest with
  | case1 => cases h
  | case2 c t before field hsplit ih =>
    cases h
    obtain ⟨⟨more, rfl⟩, hrest⟩ := ih hsplit
    exact ⟨⟨c :: more, rfl⟩, hrest⟩
  -- The tab in front is the last one if no other comes after it.
  | case3 t hsplit =>
    cases h
    exact ⟨⟨[], rfl⟩, splitLastTab?_eq_none_iff.1 hsplit⟩
  | case4 => cases h

/-! ### Fields -/

namespace IsScanResult

variable {line before field ends : Text}

theorem tab_notMem_rest (h : IsScanResult line before field ends) : '\t' ∉ field ++ ends := by
  rw [List.mem_append, not_or]
  refine ⟨h.tab_notMem, fun hmem => ?_⟩
  -- A tab ends no line.
  have htab := h.isLineEnd_of_mem '\t' hmem
  cases htab

/-- The field of a scan result is found in it. -/
theorem field?_eq (h : IsScanResult line before field ends) :
    field? line = some ⟨length before + 1, field⟩ := by
  have hsplit := splitLastTab?_append before h.tab_notMem_rest
  have hdrop := dropTrailing_append h.isLineEnd_getLast? h.isLineEnd_of_mem
  have hlength : length (before ++ ['\t']) = length before + 1 := length_append before ['\t']
  rw [← h.line_eq] at hsplit
  unfold field?
  simp only [hsplit, hdrop, h.hasByteEscape_eq, if_true, hlength]

end IsScanResult

/-- **Fields.** A name is found as a field exactly in the scan results, where it stands behind the last
    tab and goes up to the line ends. -/
theorem field?_eq_some_iff {line : Text} {token : Token} :
    field? line = some token ↔
      ∃ before ends, IsScanResult line before token.text ends ∧ token.start = length before + 1 := by
  constructor
  · intro h
    unfold field? at h
    split at h
    · cases h
    · rename_i front rest hsplit
      simp only at h
      split at h
      · rename_i hescape
        obtain rfl := Option.some.inj h
        -- The cut at the last tab and the ends that were dropped put the line together again.
        obtain ⟨⟨before, rfl⟩, htab⟩ := of_splitLastTab? hsplit
        have hline := append_of_splitLastTab? hsplit
        obtain ⟨ends, hends, hall⟩ := exists_dropTrailing_append isLineEnd rest
        have hfield : '\t' ∉ Text.dropTrailing isLineEnd rest := by
          intro hmem
          apply htab
          rw [← hends]
          exact List.mem_append_left ends hmem
        refine ⟨before, ends, ?_, length_append before ['\t']⟩
        refine ⟨?_, hfield, hescape, getLast?_dropTrailing isLineEnd rest, hall⟩
        rw [hends, ← hline, List.append_assoc, List.singleton_append]
      · cases h
  · rintro ⟨before, ends, h, hstart⟩
    rw [h.field?_eq, ← hstart]

/-- The field of a scan result is its only name. -/
theorem names_of_isScanResult {line before field ends : Text}
    (h : IsScanResult line before field ends) :
    names line = [.ofToken ⟨length before + 1, field⟩] := by
  simp only [names, h.field?_eq]

end WifiNames.Scan
