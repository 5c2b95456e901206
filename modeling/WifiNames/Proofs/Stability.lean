import WifiNames.Proofs.Direction

namespace WifiNames

/-!
# Stability — names stay what they are

A history is only ever appended to, and the first entry that matches counts.  So what a name finds
once it finds until the session ends.  And as long as only GBK names are converted, a name that is
shown can be chosen, driven and shown again without becoming another one.

* `lookup_run` — what is found stays found, whatever is remembered later.
* `Registry.displayName_displayName` — a shown name is shown as it is.
* `Registry.driverName_eq_or` — what a chosen name can be driven as.
* `Registry.IsGated.displayName_raw` — the raw name of an entry is shown as its converted form.
* `displayName_driverName_displayName` — a shown name is stable under choosing it.
-/

/-! ### While a session lasts -/

/-- **What is found stays found.**  Whatever is asked of a registry before the session ends, a name
    that finds something finds the same afterwards, and is driven as before. -/
theorem lookup_run {r : Registry} {query found : Bytes} (hfound : (r.lookup query).value = .ok found)
    {later : List Request} (hstop : .stop ∉ later) :
    ((r.run later).lookup query).value = .ok found ∧
      ((r.run later).driverName query).value = (r.driverName query).value := by
  obtain ⟨h, hh, hfind⟩ := Registry.lookup_eq_ok_iff.1 hfound
  -- Until the session ends, pairs are only appended to its history.
  have hhistory := Registry.history_run_of_stop_notMem hh hstop
  have hfind' := History.lookup?_addAll hfind (later.flatMap (Request.attempts r.transcoder))
  have hlater := Registry.lookup_of_history hhistory hfind'
  refine ⟨hlater, ?_⟩
  rw [Registry.value_driverName, Registry.value_driverName, hlater, hfound]

/-- Two pairs with one converted form, the second of which comes too late, and a second form for the
    first raw name. -/
theorem lookup_run_of_collision :
    let r := (Registry.ofTranscoder Converter.default.transcoder false).run
      [.start, .record [0x41] [0x42]]
    let later : List Request := [.record [0x43] [0x42], .start, .record [0x41] [0x44]]
    (r.lookup [0x42]).value = .ok [0x41] ∧ .stop ∉ later ∧
      ((r.run later).lookup [0x42]).value = .ok [0x41] ∧
      ((r.run later).driverName [0x42]).value = [0x41] := by
  intro r later
  have hfound : (r.lookup [0x42]).value = .ok [0x41] := by decide
  have hstop : .stop ∉ later := by simp [later]
  obtain ⟨hlater, hdriven⟩ := lookup_run hfound hstop
  exact ⟨hfound, hstop, hlater, hdriven.trans (by decide)⟩

/-! ### Showing again -/

namespace Registry

/-- **A shown name is shown as it is**, and to show it again changes nothing. -/
theorem displayName_displayName {decoder? : String → Option Decoder} {c : Converter} {r : Registry}
    (hr : r.transcoder = c.transcoderWith decoder?) (x : Bytes) :
    ((r.displayName x).value.2.displayName (r.displayName x).value.1).value =
      (r.displayName x).value := by
  by_cases hfallback : isGbkName x = false ∨ ∃ e, (r.convert x).value.1 = .error e
  · -- The name was shown as it is, so the same happens again.
    have hshown := displayName_of_fallback hfallback
    rw [hshown]
    exact hshown
  · rw [not_or, Bool.not_eq_false] at hfallback
    obtain ⟨hgbk, hnoError⟩ := hfallback
    cases hconvert : (r.convert x).value.1 with
    | error e => exact absurd ⟨e, hconvert⟩ hnoError
    | ok u =>
      have hu : (c.toUtf8With decoder? x).value = .ok u := by
        have hok := (ok_of_convert hconvert).1
        rwa [hr] at hok
      have hnotGbk : isGbkName u = false :=
        Shape.isGbkName_of_wellFormed (Converter.wellFormed_of_toUtf8With hu)
      have hshown : (r.displayName x).value = (u, (r.convert x).value.2) := by
        rw [value_displayName, if_pos hgbk, hconvert]
        rfl
      rw [hshown]
      exact displayName_of_fallback (Or.inl hnotGbk)

/-! ### Choosing -/

/-- A name is driven as it is, or as the raw name of an entry whose converted form it is. -/
theorem driverName_eq_or (r : Registry) (x : Bytes) :
    (r.driverName x).value = x ∨ ∃ h, r.history = some h ∧ ∃ e ∈ h.entries,
      e.converted = x ∧ (r.driverName x).value = e.raw := by
  rw [value_driverName]
  by_cases hgbk : isGbkName x = true
  · exact Or.inl (if_pos hgbk)
  · rw [if_neg hgbk]
    cases hlookup : (r.lookup x).value with
    | error e => exact Or.inl rfl
    | ok found =>
      right
      rw [Bool.not_eq_true] at hgbk
      obtain ⟨h, hh, hfind⟩ := lookup_eq_ok_iff.1 hlookup
      obtain ⟨e, he, hconverted, rfl⟩ := History.exists_mem_of_lookup?_converted hgbk hfind
      exact ⟨h, hh, e, he, hconverted, rfl⟩

/-- The raw name of an entry is shown as its converted form, and nothing changes. -/
theorem IsGated.displayName_raw {t : Transcoder} {r : Registry} (hr : r.IsGated t) {h : History}
    (hh : r.history = some h) {e : Entry} (he : e ∈ h.entries) :
    (r.displayName e.raw).value = (e.converted, r) := by
  have hconversion := hr.isConversion hh e he
  -- In a gated registry all entries are conversions, so that to convert the name answers the same.
  have hok : (r.transcoder.toUtf8 e.raw).value = .ok e.converted := by
    rw [hr.transcoder_eq]
    exact hconversion.2
  -- The raw name has an entry already, so that nothing is added.
  have hknown : h.knows e.raw = true := List.any_eq_true.2 ⟨e, he, BEq.rfl⟩
  have hsame : r.remember [⟨e.raw, e.converted⟩] = r := by
    apply remember_of_knows hh
    intro x hx
    rw [List.mem_singleton.1 hx]
    exact hknown
  rw [value_displayName, if_pos hconversion.1, convert_of_ok hok, if_pos (isStarted_of_history hh), hsame]
  rfl

end Registry

/-- **Choosing a shown name.**  After gated requests, inside of a session and outside, whatever a
    name is shown as can be chosen: what is then driven is shown in the same way, and so is the
    shown name itself.  Neither changes the registry any more.  What is driven for a name is driven
    as it is.  This holds whatever decoders the labels have. -/
theorem displayName_driverName_displayName {decoder? : String → Option Decoder} {c : Converter}
    {r : Registry} (hr : r.IsGated (c.transcoderWith decoder?)) (x : Bytes) :
    let shown := (r.displayName x).value.1
    let after := (r.displayName x).value.2
    (after.displayName (after.driverName shown).value).value = (shown, after) ∧
    (after.displayName shown).value = (shown, after) ∧
    (r.driverName (r.driverName x).value).value = (r.driverName x).value := by
  intro shown after
  have hafter : after.IsGated (c.transcoderWith decoder?) :=
    hr.run (List.forall_mem_singleton.2 (show (Request.display x).IsGated from trivial))
  have hagain : (after.displayName shown).value = (shown, after) :=
    Registry.displayName_displayName hr.transcoder_eq x
  refine ⟨?_, hagain, ?_⟩
  · -- A shown name is driven as it is, or as the raw name of an entry with that converted form.
    rcases Registry.driverName_eq_or after shown with
      hdriven | ⟨h, hh, e, he, hconverted, hdriven⟩
    · rw [hdriven]
      exact hagain
    · rw [hdriven, hafter.displayName_raw hh he, hconverted]
  · rcases Registry.driverName_eq_or r x with
      hdriven | ⟨h, hh, e, he, -, hdriven⟩
    · rw [hdriven, hdriven]
    · -- The raw name of an entry is a GBK name, which is what the driver expects.
      rw [hdriven]
      exact Registry.driverName_of_fallback (Or.inl (hr.isConversion hh e he).1)

/-- A name that is shown like another one, since it goes on after a NUL: what is driven for it is
    the other name, which is shown in the same way. -/
theorem displayName_driverName_displayName_of_nul :
    let r := (Registry.ofTranscoder Converter.default.transcoder false).run
      [.start, .display [0xD6, 0xD0]]
    let shown := (r.displayName [0xD6, 0xD0, 0]).value.1
    let after := (r.displayName [0xD6, 0xD0, 0]).value.2
    r.IsGated Converter.default.transcoder ∧ shown = [0xE4, 0xB8, 0xAD] ∧
      (after.driverName shown).value = [0xD6, 0xD0] ∧
      (after.displayName (after.driverName shown).value).value = (shown, after) := by
  intro r shown after
  have hr : r.IsGated Converter.default.transcoder :=
    (Registry.IsGated.ofTranscoder _ false).run (by simp [Request.IsGated])
  have hshown : shown = [0xE4, 0xB8, 0xAD] := by decide +kernel
  have hdriven : (after.driverName shown).value = [0xD6, 0xD0] := by decide +kernel
  obtain ⟨hchosen, -, -⟩ := displayName_driverName_displayName hr [0xD6, 0xD0, 0]
  exact ⟨hr, hshown, hdriven, hchosen⟩

end WifiNames
