import WifiNames.Proofs.Session

namespace WifiNames

/-!
# Directions — which way a name is looked up

A history does not store the direction of a look-up; it is read off the name.  That is sound as
long as only GBK names are converted, since what they are converted to is text, and text is never
taken for GBK.

* `Request.IsGated` — a request that remembers pairs of GBK names and their conversions only.
* `Entry.IsConversion` — such a pair.
* `Registry.IsGated` — a registry that such requests lead to.
* `lookup_of_isGated` — every name of a history is looked up in the right direction.
* `driverName_displayName` — when a shown name is driven as the name that was scanned.
-/

/-- Whether a request remembers only GBK names with their conversions.  A pair that the caller
    makes up, and the conversion of any other name, are left out. -/
def Request.IsGated : Request → Prop
  | .record _ _ => False
  | .convert raw => isGbkName raw = true
  | _ => True

/-- Whether an entry holds a GBK name and what the transcoder makes of it. -/
def Entry.IsConversion (t : Transcoder) (e : Entry) : Prop :=
  isGbkName e.raw = true ∧ (t.toUtf8 e.raw).value = .ok e.converted

namespace Entry.IsConversion

variable {decoder? : String → Option Decoder} {c : Converter} {e : Entry}

/-- The converted form is text. -/
theorem wellFormed (h : e.IsConversion (c.transcoderWith decoder?)) : Utf8.WellFormed e.converted :=
  Converter.wellFormed_of_toUtf8With h.2

/-- The converted form is not a GBK name. -/
theorem isGbkName_converted (h : e.IsConversion (c.transcoderWith decoder?)) :
    isGbkName e.converted = false :=
  Shape.isGbkName_of_wellFormed h.wellFormed

end Entry.IsConversion

/-! ### What gated requests remember -/

/-- Gated requests attempt to remember conversions only. -/
theorem isConversion_of_mem_attempts {t : Transcoder} {q : Request} (hq : q.IsGated) {e : Entry}
    (he : e ∈ q.attempts t) : e.IsConversion t := by
  obtain ⟨-, hrecord | ⟨hconverted, hconvert | hgbk⟩⟩ := Request.of_mem_attempts he
  · subst hrecord
    exact absurd hq id
  · subst hconvert
    exact ⟨hq, hconverted⟩
  · exact ⟨hgbk, hconverted⟩

/-- The registries that gated requests lead to. -/
def Registry.IsGated (t : Transcoder) (r : Registry) : Prop :=
  ∃ dumps requests, (∀ q ∈ requests, q.IsGated) ∧
    r = (Registry.ofTranscoder t dumps).run requests

namespace Registry.IsGated

variable {t : Transcoder} {r : Registry}

theorem transcoder_eq (hr : r.IsGated t) : r.transcoder = t := by
  obtain ⟨dumps, requests, -, rfl⟩ := hr
  exact transcoder_run _ requests

/-- A fresh registry is one of them. -/
theorem ofTranscoder (t : Transcoder) (dumps : Bool) :
    (Registry.ofTranscoder t dumps).IsGated t :=
  ⟨dumps, [], fun _ hq => absurd hq List.not_mem_nil, rfl⟩

/-- More gated requests lead to such a registry again. -/
theorem run (hr : r.IsGated t) {requests : List Request} (hgated : ∀ q ∈ requests, q.IsGated) :
    (r.run requests).IsGated t := by
  obtain ⟨dumps, earlier, hearlier, rfl⟩ := hr
  refine ⟨dumps, earlier ++ requests, ?_, (run_append _ earlier requests).symm⟩
  exact List.forall_mem_append.2 ⟨hearlier, hgated⟩

theorem nodup_raw (hr : r.IsGated t) {h : History} (hh : r.history = some h) :
    (h.entries.map Entry.raw).Nodup := by
  obtain ⟨dumps, requests, -, rfl⟩ := hr
  exact nodup_raw_run rfl hh

/-- **The invariant.** A session of gated requests holds conversions only. -/
theorem isConversion (hr : r.IsGated t) {h : History} (hh : r.history = some h) :
    ∀ e ∈ h.entries, e.IsConversion t := by
  obtain ⟨dumps, requests, hgated, rfl⟩ := hr
  -- Every entry was attempted by a request of this session, and that request was gated.
  obtain ⟨since, ⟨before, rfl, -⟩, hentries⟩ := exists_since_entries rfl hh
  intro e he
  rw [hentries] at he
  obtain ⟨q, hq, hattempt⟩ := List.mem_flatMap.1 (mem_of_mem_firstPerRaw he)
  exact isConversion_of_mem_attempts (hgated q (by simp [hq])) hattempt

end Registry.IsGated

/-! ### Looking up in the right direction -/

/-- **Directions.** After gated requests every entry holds a GBK name with its conversion, which
    is text and no GBK name.  So raw names and converted forms never meet, a raw name finds its
    converted form, and a converted form finds the raw name of its earliest entry.  This holds for
    every label and capacity, whatever decoders the labels have. -/
theorem lookup_of_isGated {decoder? : String → Option Decoder} {c : Converter} {r : Registry}
    (hr : r.IsGated (c.transcoderWith decoder?)) {entries : List Entry}
    (hentries : r.entries = .ok entries) :
    (∀ e ∈ entries, isGbkName e.raw = true ∧
      (c.toUtf8With decoder? e.raw).value = .ok e.converted ∧
      Utf8.WellFormed e.converted ∧ isGbkName e.converted = false) ∧
    (∀ e ∈ entries, ∀ x ∈ entries, e.raw ≠ x.converted) ∧
    ∀ e ∈ entries, (r.lookup e.raw).value = .ok e.converted ∧
      ∃ first, IsEarliest entries e.converted first ∧
        (r.lookup e.converted).value = .ok first.raw := by
  obtain ⟨h, hh, rfl⟩ := Registry.entries_eq_ok_iff.1 hentries
  have hconversion := hr.isConversion hh
  refine ⟨fun e he => ?_, fun e he x hx heq => ?_, fun e he => ⟨?_, ?_⟩⟩
  · have hc := hconversion e he
    exact ⟨hc.1, hc.2, hc.wellFormed, hc.isGbkName_converted⟩
  · -- The two sides are classified differently.
    have hraw := (hconversion e he).1
    rw [heq, (hconversion x hx).isGbkName_converted] at hraw
    cases hraw
  · -- Raw names are distinct, so the entry that is found is the entry itself.
    have hfound := History.lookup?_raw (hr.nodup_raw hh) he (hconversion e he).1
    exact Registry.lookup_of_history hh hfound
  · obtain ⟨first, hfirst, hfound⟩ :=
      History.exists_lookup?_converted he (hconversion e he).isGbkName_converted
    exact ⟨first, hfirst, Registry.lookup_of_history hh hfound⟩

/-- Both directions after one name is shown. -/
theorem lookup_of_isGated_displayed :
    let r := (Registry.ofTranscoder Converter.default.transcoder false).run
      [.start, .display [0xD6, 0xD0]]
    let e : Entry := ⟨[0xD6, 0xD0], [0xE4, 0xB8, 0xAD]⟩
    r.IsGated Converter.default.transcoder ∧ r.entries = .ok [e] ∧ (r.lookup e.raw).value = .ok e.converted ∧
      ∃ first, IsEarliest [e] e.converted first ∧ (r.lookup e.converted).value = .ok first.raw := by
  intro r e
  have hr : r.IsGated Converter.default.transcoder :=
    (Registry.IsGated.ofTranscoder _ false).run (by simp [Request.IsGated])
  have hentries : r.entries = .ok [e] := by decide +kernel
  obtain ⟨-, -, hlookup⟩ := lookup_of_isGated hr hentries
  exact ⟨hr, hentries, hlookup e (List.mem_singleton_self e)⟩

/-! ### Back from the shown name -/

namespace Registry

/-- A converted form is driven as the raw name of its earliest entry, to the end of the session. -/
theorem driverName_converted {r : Registry} {h : History} (hh : r.history = some h) {e : Entry}
    (he : e ∈ h.entries) (hgbk : isGbkName e.converted = false) :
    ∃ first, IsEarliest h.entries e.converted first ∧ ∀ later, .stop ∉ later →
      ((r.run later).driverName e.converted).value = first.raw := by
  obtain ⟨first, hfirst, hfound⟩ := History.exists_lookup?_converted he hgbk
  -- Later entries come behind those that are there, so the earliest one stays the earliest.
  refine ⟨first, hfirst, fun later hstop => ?_⟩
  have hlater := History.lookup?_addAll hfound (later.flatMap (Request.attempts r.transcoder))
  rw [value_driverName, hgbk, if_neg Bool.false_ne_true,
    lookup_of_history (history_run_of_stop_notMem hh hstop) hlater]
  rfl

/-- Within a session a GBK name that can be converted is shown converted, and has an entry then. -/
theorem displayName_of_ok {r : Registry} (hopen : r.isStarted = true) {raw u : Bytes}
    (hraw : isGbkName raw = true) (hu : (r.transcoder.toUtf8 raw).value = .ok u) :
    (r.displayName raw).value.1 = u ∧
      ∃ h, (r.displayName raw).value.2.history = some h ∧ ∃ e ∈ h.entries, e.raw = raw := by
  obtain ⟨h, hh⟩ := Option.isSome_iff_exists.1 hopen
  rw [value_displayName, if_pos hraw, convert_of_ok hu, if_pos hopen]
  refine ⟨rfl, h.add raw u, ?_, History.exists_mem_add h raw u⟩
  rw [history_remember, hh]
  rfl

end Registry

/-- **There and back.** A GBK name that is shown converted, as `u`, is driven as itself again
    unless another name was converted to `u` before it in the session.  Then the earliest such
    name is driven, which also converts to `u`.  Until the session ends `u` is driven as that
    name, never as `u`.  This holds whatever decoders the labels have. -/
theorem driverName_displayName {decoder? : String → Option Decoder} {c : Converter} {r : Registry}
    (hr : r.IsGated (c.transcoderWith decoder?)) (hopen : r.isStarted = true) {raw u : Bytes}
    (hraw : isGbkName raw = true) (hu : (c.toUtf8With decoder? raw).value = .ok u) :
    (r.displayName raw).value.1 = u ∧ ∃ before after first,
      (r.displayName raw).value.2.entries = .ok (before ++ ⟨raw, u⟩ :: after) ∧
      (((r.displayName raw).value.2.driverName u).value = raw ↔
        ¬ ∃ e ∈ before, e.converted = u ∧ e.raw ≠ raw) ∧
      IsEarliest (before ++ ⟨raw, u⟩ :: after) u first ∧
      (c.toUtf8With decoder? first.raw).value = .ok u ∧ first.raw ≠ u ∧
      ∀ later, .stop ∉ later →
        (((r.displayName raw).value.2.run later).driverName u).value = first.raw := by
  have hu' : (r.transcoder.toUtf8 raw).value = .ok u := by rw [hr.transcoder_eq]; exact hu
  obtain ⟨hshown, h, hh, e, he, rfl⟩ := Registry.displayName_of_ok hopen hraw hu'
  refine ⟨hshown, ?_⟩
  -- What follows is about the registry after the name is shown.
  have hgated : (r.displayName e.raw).value.2.IsGated (c.transcoderWith decoder?) :=
    hr.run (List.forall_mem_singleton.2 (show (Request.display e.raw).IsGated from trivial))
  generalize (r.displayName e.raw).value.2 = r at *
  have hconversion := hgated.isConversion hh
  obtain rfl : u = e.converted := Except.ok.inj (hu.symm.trans (hconversion e he).2)
  have hnotGbk := (hconversion e he).isGbkName_converted
  obtain ⟨first, hfirst, hdrives⟩ := Registry.driverName_converted hh he hnotGbk
  -- The entry of the name divides the history into what came before it and after it.
  obtain ⟨before, after, hsplit⟩ := List.append_of_mem he
  have hmem : first ∈ h.entries := by
    obtain ⟨-, x, y, hxy, -⟩ := hfirst
    rw [hxy]
    exact List.mem_append_right _ List.mem_cons_self
  have hfirst_u : (c.toUtf8With decoder? first.raw).value = .ok e.converted := by
    have hconverted := (hconversion first hmem).2
    rwa [hfirst.1] at hconverted
  refine ⟨before, after, first, Registry.entries_eq_ok_iff.2 ⟨h, hh, hsplit⟩, ?_, hsplit ▸ hfirst,
    hfirst_u, ?_, hdrives⟩
  · rw [show (r.driverName e.converted).value = first.raw from hdrives [] List.not_mem_nil]
    rw [hsplit] at hfirst
    constructor
    · -- The raw name has one entry only, so the earliest one is that entry.
      intro hraw_eq
      have hnodup := hgated.nodup_raw hh
      obtain rfl : first = e := List.inj_on_of_nodup_map hnodup hmem he hraw_eq
      rintro ⟨x, hx, hxu, -⟩
      rcases hfirst.mem_or_eq rfl with hbefore | ⟨-, hnone⟩
      · rw [hsplit] at hnodup
        have hdisjoint := (List.nodup_append.1 (hnodup.of_map)).2.2
        exact hdisjoint first hbefore first List.mem_cons_self rfl
      · exact hnone x hx hxu
    · intro hnone
      rcases hfirst.mem_or_eq rfl with hbefore | ⟨rfl, -⟩
      · -- An earlier name with this converted form is the one that the condition excludes.
        by_contra hne
        exact hnone ⟨first, hbefore, hfirst.1, hne⟩
      · rfl
  · -- A raw name is classified as GBK, a converted form is not.
    intro heq
    have hgbk := (hconversion first hmem).1
    rw [heq, hnotGbk] at hgbk
    cases hgbk

/-- Two names that are shown alike, since one goes on after a NUL: both are driven as the one that
    was shown first. -/
theorem driverName_displayName_of_nul :
    let r := (Registry.ofTranscoder Converter.default.transcoder false).run
      [.start, .display [0xD6, 0xD0]]
    r.IsGated Converter.default.transcoder ∧ r.isStarted = true ∧ isGbkName [0xD6, 0xD0, 0] = true ∧
      (Converter.default.toUtf8 [0xD6, 0xD0, 0]).value = .ok [0xE4, 0xB8, 0xAD] ∧
      (r.displayName [0xD6, 0xD0, 0]).value.1 = [0xE4, 0xB8, 0xAD] ∧
      ∀ later, .stop ∉ later →
        (((r.displayName [0xD6, 0xD0, 0]).value.2.run later).driverName
          [0xE4, 0xB8, 0xAD]).value = [0xD6, 0xD0] := by
  intro r
  have hr : r.IsGated Converter.default.transcoder :=
    (Registry.IsGated.ofTranscoder _ false).run (by simp [Request.IsGated])
  have hopen : r.isStarted = true := by decide +kernel
  have hgbk : isGbkName [0xD6, 0xD0, 0] = true := by decide
  have hu : (Converter.default.toUtf8 [0xD6, 0xD0, 0]).value = .ok [0xE4, 0xB8, 0xAD] := by
    decide +kernel
  obtain ⟨hshown, before, after, first, -, -, -, -, -, hdrives⟩ :=
    driverName_displayName hr hopen hgbk hu
  have hraw : first.raw = [0xD6, 0xD0] :=
    (hdrives [] List.not_mem_nil).symm.trans (by decide +kernel)
  exact ⟨hr, hopen, hgbk, hu, hshown, hraw ▸ hdrives⟩

end WifiNames
