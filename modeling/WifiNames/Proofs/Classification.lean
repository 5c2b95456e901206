import WifiNames.Proofs.Agreement
import WifiNames.Proofs.Direction
import WifiNames.Proofs.Shape.Units

namespace WifiNames

/-!
# Classification — which names are taken for GBK

The decision has two sides.  Text is never taken for GBK, whatever pairs its bytes form.  A name
of pairs that is no text is taken for GBK unless the multi-byte pattern claims it, since that
pattern looks at the shape of its units and not at the numbers that they stand for.

* `isGbkName_eq_false_of_text` — text, and what follows for look-ups and their reports.
* `isGbkName_iff_of_isDoubleByte` — exactly which names of pairs are passed over.
* `isGbkName_eq_false_of_overlong` — a common name that is.
-/

/-! ### Text -/

/-- A GBK name cannot be read as text. -/
theorem decode?_of_isGbkName {b : Bytes} (hb : isGbkName b = true) : Utf8.decode? b = none := by
  rw [Utf8.decode?_eq_none_iff]
  intro htext
  rw [Shape.isGbkName_of_wellFormed htext] at hb
  cases hb

/-- A name that is no GBK name is looked up among the converted forms. -/
theorem History.lookup?_of_not_isGbkName {b : Bytes} (hb : isGbkName b = false) (h : History) :
    h.lookup? b = (h.entries.find? (·.converted == b)).map Entry.raw := by
  rw [lookup?, hb, if_neg Bool.false_ne_true]

/-- **Text is never taken for GBK.**  So a GBK name cannot be read as text, the report of a look-up
    that finds a GBK name has no text to show, and whatever a converter answers, with the decoder of
    any label, is looked up among the converted forms. -/
theorem isGbkName_eq_false_of_text :
    (∀ b, Utf8.WellFormed b → isGbkName b = false) ∧
    (∀ b, isGbkName b = true → Utf8.decode? b = none) ∧
    (∀ (r : Registry) (query : Text) (name found : Bytes),
      (r.lookupReport query name).value.found = some found → isGbkName found = true →
      (r.lookupReport query name).value.display = none) ∧
    ∀ (decoder? : String → Option Decoder) (c : Converter) (raw u : Bytes),
      (c.toUtf8With decoder? raw).value = .ok u → ∀ h : History,
      h.lookup? u = (h.entries.find? (·.converted == u)).map Entry.raw := by
  refine ⟨fun b => Shape.isGbkName_of_wellFormed, fun b => decode?_of_isGbkName, ?_, ?_⟩
  · intro r query name found hfound hgbk
    rw [LookupReport.display, hfound, Option.bind_some, decode?_of_isGbkName hgbk]
  · -- Whatever the decoder, its answer is encoded text.
    intro decoder? c raw u hu h
    have htext := Converter.wellFormed_of_toUtf8With hu
    exact h.lookup?_of_not_isGbkName (Shape.isGbkName_of_wellFormed htext)

/-- A text whose six bytes are three pairs as well, and a look-up that finds a GBK name. -/
theorem isGbkName_eq_false_of_text_of_pairs :
    let r := (Registry.ofTranscoder Converter.default.transcoder false).withHistory
      (some ⟨[⟨[0xD6, 0xD0], [0xE4, 0xB8, 0xAD]⟩]⟩)
    Shape.isDoubleByte (Utf8.encode ['中', '国']) = true ∧
      isGbkName (Utf8.encode ['中', '国']) = false ∧
      (r.lookupReport ['中'] [0xE4, 0xB8, 0xAD]).value.found = some [0xD6, 0xD0] ∧
      isGbkName [0xD6, 0xD0] = true ∧ Utf8.decode? [0xD6, 0xD0] = none ∧
      (r.lookupReport ['中'] [0xE4, 0xB8, 0xAD]).value.display = none ∧
      (Converter.default.toUtf8 [0xD6, 0xD0]).value = .ok [0xE4, 0xB8, 0xAD] ∧
      History.lookup? ⟨[⟨[0xD6, 0xD0], [0xE4, 0xB8, 0xAD]⟩]⟩ [0xE4, 0xB8, 0xAD] =
        some [0xD6, 0xD0] := by
  intro r
  have hgbk : isGbkName [0xD6, 0xD0] = true := by decide
  have hfound : (r.lookupReport ['中'] [0xE4, 0xB8, 0xAD]).value.found = some [0xD6, 0xD0] := by rfl
  have hconvert : (Converter.default.toUtf8 [0xD6, 0xD0]).value = .ok [0xE4, 0xB8, 0xAD] := by
    decide +kernel
  obtain ⟨htext, hdecode, hdisplay, hlookup⟩ := isGbkName_eq_false_of_text
  exact ⟨by decide, htext _ (Utf8.wellFormed_encode _), hfound, hgbk, hdecode _ hgbk,
    hdisplay _ _ _ _ hfound hgbk, hconvert, hlookup _ _ _ _ hconvert _⟩

/-! ### Names of pairs -/

/-- Within a session a GBK name is shown converted by a converter of the GBK family. -/
theorem Registry.displayName_of_isGbkFamily {r : Registry} (hopen : r.isStarted = true)
    {c : Converter} (hr : r.transcoder = c.transcoder) {charset : Charset}
    (hlabel : Charset.ofLabel? c.charset = some charset) (hfamily : charset.IsGbkFamily)
    {b : Bytes} (hb : isGbkName b = true) :
    ∃ text, charset.decode? b = some text ∧
      (r.displayName b).value.1 = Utf8.encode (c.shown text) := by
  obtain ⟨cells, text, hreads, hconvert⟩ := c.exists_readsByCell hlabel hfamily hb
  have hok : (r.transcoder.toUtf8 b).value = .ok (Utf8.encode (c.shown text)) := by
    rw [hr]
    exact hconvert
  exact ⟨text, hreads.decode?_eq, (displayName_of_ok hopen hb hok).1⟩

/-- **Which names of pairs are missed.**  A name of double-byte shape that is no text is taken for
    GBK, and shown converted in a session, unless it is made of units.  Then one of its units is
    stray, and the name is shown as it is. -/
theorem isGbkName_iff_of_isDoubleByte {b : Bytes} (hb : Shape.isDoubleByte b = true)
    (htext : ¬ Utf8.WellFormed b) :
    (isGbkName b = true ↔
      ¬ ∃ units : List Bytes, (∀ u ∈ units, Shape.IsUnit u) ∧ units.flatten = b) ∧
    (∀ units : List Bytes, (∀ u ∈ units, Shape.IsUnit u) → units.flatten = b →
      ∃ u ∈ units, Shape.IsStray u) ∧
    (isGbkName b = true → ∀ r : Registry, r.isStarted = true →
      (∀ u, (r.transcoder.toUtf8 b).value = .ok u → (r.displayName b).value.1 = u) ∧
      ∀ (c : Converter) (charset : Charset), r.transcoder = c.transcoder →
        Charset.ofLabel? c.charset = some charset → charset.IsGbkFamily →
        ∃ text, charset.decode? b = some text ∧
          (r.displayName b).value.1 = Utf8.encode (c.shown text)) ∧
    (isGbkName b = false → ∀ r : Registry, (r.displayName b).value = (b, r)) := by
  refine ⟨?_, ?_, ?_, ?_⟩
  · -- The pairs are there already, so the multi-byte pattern decides alone.
    rw [← Shape.isMultiByte_iff_of_isDoubleByte hb, isGbkName, hb, Bool.and_true,
      Bool.not_eq_true', Bool.not_eq_true]
  · intro units hunits hflatten
    by_contra hnone
    -- Units none of which is stray would make up text.
    have hclean : ∀ u ∈ units, ¬ Shape.IsStray u := fun u hu hstray => hnone ⟨u, hu, hstray⟩
    exact htext (hflatten ▸ (Shape.wellFormed_flatten_iff hunits).2 hclean)
  · intro hgbk r hopen
    refine ⟨fun u hu => (Registry.displayName_of_ok hopen hgbk hu).1, ?_⟩
    intro c charset hr hlabel hfamily
    exact Registry.displayName_of_isGbkFamily hopen hr hlabel hfamily hgbk
  · intro hgbk r
    exact Registry.displayName_of_fallback (Or.inl hgbk)

/-- A pair whose first byte announces one continuation byte and whose second byte is none. -/
theorem isGbkName_iff_of_isDoubleByte_pair :
    Shape.isDoubleByte [0xD6, 0xD0] = true ∧ ¬ Utf8.WellFormed [0xD6, 0xD0] ∧
      isGbkName [0xD6, 0xD0] = true ∧
      (¬ ∃ units : List Bytes, (∀ u ∈ units, Shape.IsUnit u) ∧ units.flatten = [0xD6, 0xD0]) ∧
      ∃ text, Charset.gbk.decode? [0xD6, 0xD0] = some text ∧
        (((Registry.ofTranscoder Converter.default.transcoder false).run [.start]).displayName
          [0xD6, 0xD0]).value.1 = Utf8.encode (Converter.default.shown text) := by
  have hb : Shape.isDoubleByte [0xD6, 0xD0] = true := by decide
  have htext : ¬ Utf8.WellFormed [0xD6, 0xD0] := Utf8.decode?_eq_none_iff.1 (by decide)
  have hgbk : isGbkName [0xD6, 0xD0] = true := by decide
  obtain ⟨hiff, -, hshown, -⟩ := isGbkName_iff_of_isDoubleByte hb htext
  have hlabel : Charset.ofLabel? Converter.default.charset = some .gbk := by rfl
  exact ⟨hb, htext, hgbk, hiff.1 hgbk, (hshown hgbk _ rfl).2 .default .gbk rfl hlabel (Or.inl rfl)⟩

/-- Two characters whose bytes look like two units, the first of them overlong: the name is no text
    and could be converted, but it is shown as it is. -/
theorem isGbkName_eq_false_of_overlong :
    let name : Bytes := [0xC1, 0xAA, 0xCD, 0xA8]
    let r := (Registry.ofTranscoder Converter.default.transcoder false).run [.start]
    Shape.isDoubleByte name = true ∧ ¬ Utf8.WellFormed name ∧ isGbkName name = false ∧
      (Converter.default.toUtf8 name).value = .ok (Utf8.encode ['联', '通']) ∧
      (r.displayName name).value.1 = name := by
  have htext : ¬ Utf8.WellFormed [0xC1, 0xAA, 0xCD, 0xA8] := Utf8.decode?_eq_none_iff.1 (by decide)
  exact ⟨by decide, htext, by decide, by decide +kernel, by decide +kernel⟩

end WifiNames
