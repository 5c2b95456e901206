import WifiNames.Proofs.Classification

namespace WifiNames

/-!
# Precedence — a conversion after a pair that was made up

A history keeps the first pair for each raw name.  A conversion answers with what its converter
makes of a name, and that is what the history knows unless the caller has recorded another form of
the name before.

* `RecordedFirst` — the first pair for a raw name was made up by the caller.
* `exists_request_of_find?`, `converted_of_find?` — where the pair that is kept comes from.
* `lookup_convert` — what is found right after a conversion.
* `lookup_convert_of_recorded` — a conversion that the history does not know.
-/

/-- Whether the first pair for `raw` in the session that requests leave open was made up by the
    caller, with the converted form `other`. -/
def RecordedFirst (t : Transcoder) (requests : List Request) (raw other : Bytes) : Prop :=
  ∃ before after, SinceStart requests (before ++ .record raw other :: after) ∧
    ∀ e ∈ before.flatMap (Request.attempts t), e.raw ≠ raw

theorem RecordedFirst.mem {t : Transcoder} {requests : List Request} {raw other : Bytes}
    (h : RecordedFirst t requests raw other) : .record raw other ∈ requests := by
  obtain ⟨before, after, ⟨earlier, rfl, -⟩, -⟩ := h
  simp

/-! ### Where pairs come from -/

/-- The first pair for a raw name is attempted by some request, and no request before it attempts
    any. -/
theorem exists_request_of_find? {t : Transcoder} {requests : List Request} {raw : Bytes}
    {e : Entry} (h : (requests.flatMap (Request.attempts t)).find? (·.raw == raw) = some e) :
    e.raw = raw ∧ ∃ before q after, requests = before ++ q :: after ∧ e ∈ q.attempts t ∧
      ∀ x ∈ before.flatMap (Request.attempts t), x.raw ≠ raw := by
  -- The search goes through the requests and ends at the first that attempts such a pair.
  rw [List.find?_flatMap, List.findSome?_eq_some_iff] at h
  obtain ⟨before, q, after, rfl, hq, hbefore⟩ := h
  have hraw : e.raw = raw := by simpa using List.find?_some hq
  refine ⟨hraw, before, q, after, rfl, List.mem_of_find?_eq_some hq, ?_⟩
  intro x hx
  obtain ⟨p, hp, hx⟩ := List.mem_flatMap.1 hx
  simpa using List.find?_eq_none.1 (hbefore p hp) x hx

/-- The first pair for a raw name holds what the transcoder makes of it, unless the caller has made
    that pair up. -/
theorem converted_of_find? {t : Transcoder} {requests since : List Request}
    (hsince : SinceStart requests since) {raw u : Bytes} {e : Entry}
    (h : (since.flatMap (Request.attempts t)).find? (·.raw == raw) = some e)
    (hu : (t.toUtf8 raw).value = .ok u)
    (hrecorded : ∀ other, RecordedFirst t requests raw other → other = u) : e.converted = u := by
  obtain ⟨rfl, before, q, after, rfl, he, hbefore⟩ := exists_request_of_find? h
  -- The caller has made the pair up, or the transcoder has answered it.
  obtain ⟨-, rfl | ⟨hconverted, -⟩⟩ := Request.of_mem_attempts he
  · exact hrecorded _ ⟨before, after, hsince, hbefore⟩
  · exact Except.ok.inj (hconverted.symm.trans hu)

/-- A pair that no request before attempts for its raw name is the first pair. -/
theorem find?_of_record {t : Transcoder} {before after : List Request} {raw other : Bytes}
    (hbefore : ∀ e ∈ before.flatMap (Request.attempts t), e.raw ≠ raw) :
    ((before ++ .record raw other :: after).flatMap (Request.attempts t)).find? (·.raw == raw) =
      some ⟨raw, other⟩ := by
  -- The search passes over all that comes before.
  have hnone : (before.flatMap (Request.attempts t)).find? (·.raw == raw) = none := by
    rw [List.find?_eq_none]
    simpa only [beq_iff_eq] using hbefore
  rw [List.flatMap_append, List.find?_append, hnone, Option.none_or, List.flatMap_cons]
  exact List.find?_cons_of_pos (by simp)

/-! ### Right after a conversion -/

namespace Registry

variable {t : Transcoder} {dumps : Bool} {requests since : List Request} {raw u : Bytes}

/-- The history of a session right after a conversion in it. -/
theorem history_run_convert (hsince : SinceStart requests since)
    (hu : (t.toUtf8 raw).value = .ok u) :
    (((ofTranscoder t dumps).run requests).convert raw).value.2.history =
      some ⟨firstPerRaw (since.flatMap (Request.attempts t) ++ [⟨raw, u⟩])⟩ := by
  have htranscoder : ((ofTranscoder t dumps).run requests).transcoder = t := transcoder_run _ _
  have hhistory : ((ofTranscoder t dumps).run requests).history =
      some ⟨firstPerRaw (since.flatMap (Request.attempts t))⟩ := history_run rfl hsince
  rw [convert_of_ok (htranscoder.symm ▸ hu), history_remember, hhistory, Option.map_some,
    ← History.empty_addAll, ← History.addAll_append, History.empty_addAll]

/-- Right after its conversion a GBK name finds the converted form of the first pair for it. -/
theorem lookup_raw_convert (hsince : SinceStart requests since) (hraw : isGbkName raw = true)
    (hu : (t.toUtf8 raw).value = .ok u) :
    ((((ofTranscoder t dumps).run requests).convert raw).value.2.lookup raw).value =
      .ok (((since.flatMap (Request.attempts t)).find? (·.raw == raw)).getD
        ⟨raw, u⟩).converted := by
  refine lookup_of_history (history_run_convert hsince hu) ?_
  rw [History.lookup?, if_pos hraw, find?_firstPerRaw, List.find?_append,
    List.find?_cons_of_pos (by simp)]
  cases (since.flatMap (Request.attempts t)).find? (·.raw == raw) <;> rfl

/-- What a GBK name finds is the converted form of an entry. -/
theorem exists_entry_of_lookup {r : Registry} {raw found : Bytes} (hraw : isGbkName raw = true)
    (hfound : (r.lookup raw).value = .ok found) :
    ∃ entries, r.entries = .ok entries ∧ ∃ e ∈ entries, e.converted = found := by
  obtain ⟨h, hh, hfind⟩ := lookup_eq_ok_iff.1 hfound
  obtain ⟨e, he, -, hconverted⟩ := History.exists_mem_of_lookup?_raw hraw hfind
  exact ⟨h.entries, entries_eq_ok_iff.2 ⟨h, hh, rfl⟩, e, he, hconverted⟩

/-- A name that is no GBK name finds something exactly if it is the converted form of an entry. -/
theorem exists_lookup_iff {r : Registry} {u : Bytes} (hu : isGbkName u = false) :
    (∃ found, (r.lookup u).value = .ok found) ↔
      ∃ entries, r.entries = .ok entries ∧ ∃ e ∈ entries, e.converted = u := by
  -- Any name but a GBK name is searched among the converted forms.
  constructor
  · rintro ⟨found, hfound⟩
    obtain ⟨h, hh, hfind⟩ := lookup_eq_ok_iff.1 hfound
    obtain ⟨e, he, hconverted, -⟩ := History.exists_mem_of_lookup?_converted hu hfind
    exact ⟨h.entries, entries_eq_ok_iff.2 ⟨h, hh, rfl⟩, e, he, hconverted⟩
  · rintro ⟨entries, hentries, e, he, rfl⟩
    obtain ⟨h, hh, rfl⟩ := entries_eq_ok_iff.1 hentries
    obtain ⟨first, -, hfound⟩ := History.exists_lookup?_converted he hu
    exact ⟨first.raw, lookup_of_history hh hfound⟩

end Registry

/-- **Right after a conversion.**  Within a session, a GBK name that was converted to `u` finds the
    form that the caller recorded for it first, if the caller did so before any other attempt for
    that name.  Otherwise it finds `u`, and `u` finds some raw name.  In any case `u` finds
    something exactly if some entry has that form.  This holds whatever decoders the labels have. -/
theorem lookup_convert {decoder? : String → Option Decoder} {c : Converter} {dumps : Bool}
    {requests : List Request} {raw u : Bytes} (hraw : isGbkName raw = true)
    (hu : (((Registry.ofTranscoder (c.transcoderWith decoder?) dumps).run requests).convert
      raw).value.1 = .ok u) :
    let t := c.transcoderWith decoder?
    let after := (((Registry.ofTranscoder t dumps).run requests).convert raw).value.2
    (∀ other, RecordedFirst t requests raw other → (after.lookup raw).value = .ok other) ∧
    ((∀ other, RecordedFirst t requests raw other → other = u) →
      (after.lookup raw).value = .ok u ∧ ∃ found, (after.lookup u).value = .ok found) ∧
    ((∃ found, (after.lookup u).value = .ok found) ↔
      ∃ entries, after.entries = .ok entries ∧ ∃ e ∈ entries, e.converted = u) := by
  intro t after
  obtain ⟨hconvert, hopen⟩ := Registry.ok_of_convert hu
  replace hconvert : (t.toUtf8 raw).value = .ok u := by
    rwa [Registry.transcoder_run] at hconvert
  -- What a converter answers is text, and text is never taken for a GBK name.
  have hnotGbk : isGbkName u = false :=
    Shape.isGbkName_of_wellFormed (Converter.wellFormed_of_toUtf8With hconvert)
  refine ⟨?_, ?_, Registry.exists_lookup_iff hnotGbk⟩
  · rintro other ⟨before, later, hsince, hbefore⟩
    have hfound : (after.lookup raw).value = .ok _ :=
      Registry.lookup_raw_convert hsince hraw hconvert
    rwa [find?_of_record hbefore] at hfound
  · intro hrecorded
    obtain ⟨since, hsince⟩ := exists_sinceStart ((Registry.isStarted_run_iff rfl _).1 hopen)
    have hfound : (after.lookup raw).value = .ok _ :=
      Registry.lookup_raw_convert hsince hraw hconvert
    have hform : (((since.flatMap (Request.attempts t)).find? (·.raw == raw)).getD
        ⟨raw, u⟩).converted = u := by
      -- If no request has attempted a pair for the name, that of the conversion is the first.
      cases hfind : (since.flatMap (Request.attempts t)).find? (·.raw == raw) with
      | none => rfl
      | some e => exact converted_of_find? hsince hfind hconvert hrecorded
    have hfound' : (after.lookup raw).value = .ok u := hform ▸ hfound
    exact ⟨hfound', (Registry.exists_lookup_iff hnotGbk).2
      (Registry.exists_entry_of_lookup hraw hfound')⟩

/-- Forms recorded for other names do not stand in the way, though one of them is what the name is
    converted to. -/
theorem lookup_convert_of_fresh :
    let requests : List Request :=
      [.start, .record [0xB9, 0xFA] [0x79], .record [0x78] [0xE4, 0xB8, 0xAD]]
    let r := (Registry.ofTranscoder (Converter.default.transcoderWith Charset.decoder?) false).run
      requests
    let after := (r.convert [0xD6, 0xD0]).value.2
    isGbkName [0xD6, 0xD0] = true ∧ (r.convert [0xD6, 0xD0]).value.1 = .ok [0xE4, 0xB8, 0xAD] ∧
      (after.lookup [0xD6, 0xD0]).value = .ok [0xE4, 0xB8, 0xAD] ∧
      ∃ found, (after.lookup [0xE4, 0xB8, 0xAD]).value = .ok found := by
  intro requests
  -- Written out, since to compare names for a registry Lean would run its conversion.
  dsimp only
  have hgbk : isGbkName [0xD6, 0xD0] = true := by decide
  have hu : (((Registry.ofTranscoder (Converter.default.transcoderWith Charset.decoder?) false).run
      requests).convert [0xD6, 0xD0]).value.1 = .ok [0xE4, 0xB8, 0xAD] := by
    decide +kernel
  obtain ⟨-, hconverted, -⟩ := lookup_convert hgbk hu
  have hother : ∀ other, RecordedFirst (Converter.default.transcoderWith Charset.decoder?) requests
      [0xD6, 0xD0] other → other = [0xE4, 0xB8, 0xAD] := by
    intro other hrecorded
    have hmem := hrecorded.mem
    simp [requests] at hmem
  exact ⟨hgbk, hu, hconverted hother⟩

/-- A conversion that the history does not know: the name finds what was recorded for it before, and
    what was answered finds nothing. -/
theorem lookup_convert_of_recorded :
    let r := (Registry.ofTranscoder Converter.default.transcoder false).run
      [.start, .record [0xD6, 0xD0] [0x78]]
    let after := (r.convert [0xD6, 0xD0]).value.2
    isGbkName [0xD6, 0xD0] = true ∧ (r.convert [0xD6, 0xD0]).value.1 = .ok [0xE4, 0xB8, 0xAD] ∧
      (after.lookup [0xD6, 0xD0]).value = .ok [0x78] ∧
      (after.lookup [0xE4, 0xB8, 0xAD]).value = .error .notFound := by
  intro r after
  exact ⟨by decide, by decide +kernel, by decide +kernel, by decide +kernel⟩

end WifiNames
