import WifiNames.Proofs.Field
import WifiNames.Proofs.Styles

namespace WifiNames

open Scan Utf8

/-!
# Ways — a name as an argument, as a name to show and in a line

Three services convert a name if it is a GBK name.  They turn what the converter answers into text
in three ways: one puts replacement characters for what is not text, one hands the bytes on, and one
gives up what is not text.  Since a converter answers with text always, all of them agree.

* `Utf8.lossy_encode` — text is shown as it is.
* `Registry.rendering_report`, `Registry.displayName_fst`, `Registry.annotate_fst_of_isScanResult` —
  what each service makes of a name.
* `Registry.ConvertsAlike`, `convertsAlike` — they agree, whatever the label, the capacity and the
  state.
-/

/-- Text is shown as it is, without any replacement. -/
theorem Utf8.lossy_encode (t : Text) : lossy (encode t) = t := by
  rw [lossy, scan_encode, List.map_map]
  exact List.map_id t

namespace Registry

variable {decoder? : String → Option Decoder} {c : Converter} {r : Registry}

/-! ### What a conversion answers -/

/-- **The two cases.** A GBK name is converted to the UTF-8 form of what it is shown as in a line, or it
    is not shown converted and its conversion fails. -/
theorem convert_eq_or (hr : r.transcoder = c.transcoderWith decoder?) {raw : Bytes} (hgbk : isGbkName raw = true) :
    (∃ s, r.rendering? raw = some s ∧ (r.convert raw).value.1 = .ok (encode s)) ∨
      r.rendering? raw = none ∧ ∃ e, (r.convert raw).value.1 = .error e := by
  cases hconvert : (r.convert raw).value.1 with
  | ok u =>
    left
    obtain ⟨hok, hopen⟩ := ok_of_convert hconvert
    -- The transcoder is a converter, so its answer is text.
    have htext := hok
    rw [hr] at htext
    obtain ⟨s, rfl⟩ := Converter.wellFormed_of_toUtf8With htext
    exact ⟨s, rendering?_eq_some_iff.2 ⟨hgbk, hopen, hok⟩, rfl⟩
  | error e =>
    right
    refine ⟨?_, e, rfl⟩
    rw [Option.eq_none_iff_forall_ne_some]
    intro s hs
    obtain ⟨-, hopen, hok⟩ := rendering?_eq_some_iff.1 hs
    rw [convert_of_ok hok, if_pos hopen] at hconvert
    cases hconvert

/-- A name that is no GBK name is not shown converted. -/
theorem rendering?_of_not_isGbkName {raw : Bytes} (hgbk : isGbkName raw = false) :
    r.rendering? raw = none := by
  rw [rendering?, hgbk, Bool.false_and, if_neg Bool.false_ne_true]

/-- A name is shown converted if it is a GBK name, a session is open and the converter succeeds. -/
theorem exists_renders_iff (hr : r.transcoder = c.transcoderWith decoder?) {raw : Bytes} :
    (∃ s, r.Renders raw s) ↔ isGbkName raw = true ∧ r.isStarted = true ∧
      ∃ u, (r.transcoder.toUtf8 raw).value = .ok u := by
  constructor
  · rintro ⟨s, hgbk, hopen, hs⟩
    exact ⟨hgbk, hopen, encode s, hs⟩
  · rintro ⟨hgbk, hopen, u, hu⟩
    -- Within a session a conversion that succeeds does not answer an error.
    rcases convert_eq_or hr hgbk with ⟨s, hs, -⟩ | ⟨-, e, he⟩
    · exact ⟨s, rendering?_eq_some_iff.1 hs⟩
    · rw [convert_of_ok hu, if_pos hopen] at he
      cases he

/-! ### One service at a time -/

/-- A report has the converted form that the name is shown as in a line. -/
theorem rendering_report (hr : r.transcoder = c.transcoderWith decoder?) (input : Text) (raw : Bytes) :
    (r.report input raw).value.1.rendering = r.rendering? raw := by
  rw [value_report]
  cases hgbk : isGbkName raw with
  | false =>
    rw [rendering?_of_not_isGbkName hgbk]
    rfl
  | true =>
    rw [if_pos rfl]
    rcases convert_eq_or hr hgbk with ⟨s, hs, hok⟩ | ⟨hnone, e, he⟩
    · rw [hok, hs]
      exact congrArg some (lossy_encode s)
    · rw [he, hnone]
      rfl

/-- The shown name is that form as bytes, or the name as it is. -/
theorem displayName_fst (hr : r.transcoder = c.transcoderWith decoder?) (raw : Bytes) :
    (r.displayName raw).value.1 = ((r.rendering? raw).map encode).getD raw := by
  rw [value_displayName]
  cases hgbk : isGbkName raw with
  | false =>
    rw [rendering?_of_not_isGbkName hgbk]
    rfl
  | true =>
    rw [if_pos rfl]
    rcases convert_eq_or hr hgbk with ⟨s, hs, hok⟩ | ⟨hnone, e, he⟩
    · rw [hok, hs]
      rfl
    · rw [he, hnone]
      rfl

variable {line before field ends : Text}

/-- In a scan result that form is inserted between the field and the line ends. -/
theorem annotate_fst_of_isScanResult (h : IsScanResult line before field ends) (colour : Bool) :
    (r.annotate ⟨false, colour⟩ line).value.1 = before ++ '\t' :: (field ++
      ((r.rendering? (Escape.decode field)).elim [] (bracketed colour) ++ ends)) := by
  let name := r.annotated (.ofToken ⟨length before + 1, field⟩)
  have hinsertion : name.render colour =
      field ++ (r.rendering? (Escape.decode field)).elim [] (bracketed colour) := by
    rw [Segment.render_eq, Segment.insertion_eq]
    rfl
  -- The line is what stands up to the tab, the name and the line ends; the name is the only one.
  have hline : line = (before ++ ['\t']) ++ (name.text ++ ends) := by
    rw [h.line_eq, List.append_assoc]
    rfl
  have hstart : name.start = 0 + length (before ++ ['\t']) := by
    rw [Nat.zero_add]
    exact (length_append before ['\t']).symm
  -- What the name adds goes to the place where it ends.
  have hout : insertAfter (insertions colour [name]) 0 ((before ++ ['\t']) ++ (name.text ++ ends)) =
      (before ++ ['\t']) ++
        (name.render colour ++ insertAfter (insertions colour []) name.stop ends) :=
    insertAfter_insertions_cons hstart rfl (ne_nil_of_hasByteEscape h.hasByteEscape_eq)
      (.nil name.stop ends)
  rw [insertAfter_insertions_nil, hinsertion] at hout
  rw [annotate_fst, names_of_isScanResult h, List.map_singleton, hline]
  refine hout.trans ?_
  simp

/-- That form is found out for the field of a scan result. -/
theorem annotateSegments_of_isScanResult (h : IsScanResult line before field ends) :
    (r.annotateSegments (names line)).value.1.map Segment.rendering =
      [r.rendering? (Escape.decode field)] := by
  have hnames : ∀ s ∈ names line, s.rendering = none := fun _ => rendering_of_mem_names
  rw [annotateSegments_fst r hnames, names_of_isScanResult h]
  rfl

/-- The registry after a scan result with a name is annotated. -/
theorem annotate_snd_of_isScanResult (h : IsScanResult line before field ends) (style : Style) :
    (r.annotate style line).value.2 =
      r.remember (r.transcoder.gbkConversions (Escape.decode field)) := by
  rw [annotate_snd, Transcoder.lineConversions, names_of_isScanResult h, List.flatMap_singleton]
  exact congrArg r.remember (List.flatMap_singleton _ _)

/-- What is remembered in addition is the name with the form that it is shown as. -/
theorem eq_of_mem_displayName {raw : Bytes} {s : Text} (hs : r.Renders raw s) {h h' : History}
    (hh : r.history = some h) (hh' : (r.displayName raw).value.2.history = some h') {e : Entry}
    (he : e ∈ h'.entries) (hnew : e ∉ h.entries) : e = ⟨raw, encode s⟩ := by
  rw [displayName_snd, history_remember, hh] at hh'
  obtain rfl := Option.some.inj hh'
  rw [History.entries_addAll, List.mem_append] at he
  -- An entry that was not there before comes from the pair that was attempted.
  have hpair := mem_of_mem_firstPerRaw (List.mem_filter.1 (he.resolve_left hnew)).1
  obtain ⟨-, hconversion⟩ := Transcoder.of_mem_gbkConversions hpair
  obtain ⟨hraw, hok⟩ := Transcoder.of_mem_conversions hconversion
  rw [hraw, hs.2.2] at hok
  cases e
  rw [Entry.mk.injEq]
  exact ⟨hraw, (Except.ok.inj hok).symm⟩

/-! ### All of them -/

/-- The services agree on a name. -/
structure ConvertsAlike (r : Registry) (raw : Bytes) : Prop where
  /-- A name is shown converted if it is a GBK name, a session is open and the transcoder succeeds. -/
  exists_renders_iff : (∃ s, r.Renders raw s) ↔ isGbkName raw = true ∧ r.isStarted = true ∧
    ∃ u, (r.transcoder.toUtf8 raw).value = .ok u
  /-- The answer of a conversion is text, so that no part of it is replaced or given up. -/
  text_of_convert : ∀ u, (r.convert raw).value.1 = .ok u → ∃ s, decode? u = some s ∧ lossy u = s
  /-- A report has that text, and leaves the same registry as the shown name. -/
  report : ∀ input, (r.report input raw).value.2 = (r.displayName raw).value.2 ∧
    ∀ s, (r.report input raw).value.1.rendering = some s ↔ r.Renders raw s
  /-- A scan result with that name leaves the same registry too, in every style.  The text is found
      out for its field and inserted after it. -/
  annotate : ∀ line before field ends, IsScanResult line before field ends →
    Escape.decode field = raw →
    (∀ style, (r.annotate style line).value.2 = (r.displayName raw).value.2) ∧
    (∀ s, (r.annotateSegments (names line)).value.1.map Segment.rendering = [some s] ↔
      r.Renders raw s) ∧
    (∀ s, r.Renders raw s → ∀ colour, (r.annotate ⟨false, colour⟩ line).value.1 =
      before ++ '\t' :: (field ++ (bracketed colour s ++ ends))) ∧
    ((∀ s, ¬ r.Renders raw s) → ∀ colour, (r.annotate ⟨false, colour⟩ line).value.1 = line)
  /-- The shown name is the UTF-8 form of that text, which is what is remembered and reported of what
      is remembered. -/
  displayName_of_renders : ∀ s, r.Renders raw s → (r.displayName raw).value.1 = encode s ∧
    ∀ h h', r.history = some h → (r.displayName raw).value.2.history = some h' →
      ∀ e ∈ h'.entries, e ∉ h.entries → e = ⟨raw, encode s⟩ ∧ e.display = s
  /-- Otherwise nothing is reported, and the name is shown as it is. -/
  of_not_renders : (∀ s, ¬ r.Renders raw s) → (r.displayName raw).value.1 = raw ∧
    ∀ input, (r.report input raw).value.1.rendering = none

end Registry

/-- **All ways agree.**  For every converter, in every state, a name is converted alike as an argument
    of the command line, to be shown and as the last field of a scan result.  This holds whatever
    decoders the labels have. -/
theorem convertsAlike (decoder? : String → Option Decoder) (c : Converter) (dumps : Bool)
    (history : Option History) (raw : Bytes) :
    (Registry.mk (c.transcoderWith decoder?) dumps history).ConvertsAlike raw := by
  -- All that counts of the registry is that its transcoder is a converter.
  generalize hr' : Registry.mk (c.transcoderWith decoder?) dumps history = r
  have hr : r.transcoder = c.transcoderWith decoder? := by rw [← hr']
  have hnone : (∀ s, ¬ r.Renders raw s) → r.rendering? raw = none := by
    intro h
    rw [Option.eq_none_iff_forall_ne_some]
    exact fun s hs => h s (Registry.rendering?_eq_some_iff.1 hs)
  refine
    { exists_renders_iff := Registry.exists_renders_iff hr
      text_of_convert := ?_
      report := fun input => ⟨?_, ?_⟩
      annotate := ?_
      displayName_of_renders := fun s hs => ⟨?_, ?_⟩
      of_not_renders := fun h => ⟨?_, fun input => ?_⟩ }
  · intro u hu
    have hok := (Registry.ok_of_convert hu).1
    -- The transcoder is a converter, so its answer is text.
    rw [hr] at hok
    obtain ⟨s, rfl⟩ := Converter.wellFormed_of_toUtf8With hok
    exact ⟨s, decode?_eq_some_iff.2 rfl, lossy_encode s⟩
  · rw [Registry.report_snd, Registry.displayName_snd]
  · intro s
    rw [Registry.rendering_report hr, Registry.rendering?_eq_some_iff]
  · rintro line before field ends hline rfl
    refine ⟨fun style => ?_, fun s => ?_, fun s hs colour => ?_, fun h colour => ?_⟩
    · rw [Registry.annotate_snd_of_isScanResult hline, Registry.displayName_snd]
    · rw [Registry.annotateSegments_of_isScanResult hline, List.cons.injEq,
        Registry.rendering?_eq_some_iff]
      exact and_iff_left rfl
    · rw [Registry.annotate_fst_of_isScanResult hline, Registry.rendering?_eq_some_iff.2 hs]
      rfl
    · rw [Registry.annotate_fst_of_isScanResult hline, hnone h]
      exact hline.line_eq.symm
  · rw [Registry.displayName_fst hr, Registry.rendering?_eq_some_iff.2 hs]
    rfl
  · intro h h' hh hh' e he hnew
    obtain rfl := Registry.eq_of_mem_displayName hs hh hh' he hnew
    exact ⟨rfl, lossy_encode s⟩
  · rw [Registry.displayName_fst hr, hnone h]
    rfl
  · rw [Registry.rendering_report hr, hnone h]

end WifiNames
