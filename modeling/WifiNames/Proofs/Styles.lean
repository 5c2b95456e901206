import WifiNames.Proofs.Annotation
import WifiNames.Proofs.Json
import WifiNames.Proofs.Tiling

namespace WifiNames

open Scan Utf8

/-!
# Styles — the same line as text, in colour and as JSON

The style of the output is looked at last, when the names of a line have been classified, converted
and remembered.  So all styles tell the same, and leave the same to be remembered.

* `filter_isName_complete` — the names among the segments of a whole line are the given ones.
* `Registry.annotateLines_snd` — what lines leave to be remembered, in any style.
* `Registry.IsReported` — what a line is written as, in every style, from the same names.
* `isReported_annotateLines` — a line is reported alike in all styles, after any other lines.
-/

namespace Scan

/-! ### The names of a whole line -/

/-- What is filled into gaps holds no name. -/
theorem filter_isName_fillGaps (line : Text) {segments : List Segment}
    (h : ∀ s ∈ segments, s.isName = true) (pos : Nat) :
    (fillGaps line pos segments).filter Segment.isName = segments := by
  induction segments generalizing pos with
  | nil =>
    rw [fillGaps]
    split <;> rfl
  | cons s rest ih =>
    obtain ⟨hs, hrest⟩ := List.forall_mem_cons.1 h
    have htail : (s :: fillGaps line s.stop rest).filter Segment.isName = s :: rest := by
      rw [List.filter_cons_of_pos hs, ih hrest]
    rw [fillGaps]
    split
    · -- The gap before the segment is left out.
      rw [List.filter_cons_of_neg (by simp [Segment.plain, Segment.isName]), htail]
    · exact htail

/-- **Nothing is lost.** The names among the segments of a whole line are the given ones, in order. -/
theorem filter_isName_complete {line : Text} {segments : List Segment} (hlaid : Laid 0 line segments)
    (h : ∀ s ∈ segments, s.isName = true) :
    (complete line segments).filter Segment.isName = segments := by
  unfold complete
  split
  · rename_i hempty
    rw [List.isEmpty_iff.1 hempty]
    rfl
  · rw [hlaid.sortByStart_eq]
    exact filter_isName_fillGaps line h 0

/-- A segment of a whole line that holds no name has no converted form. -/
theorem rendering_of_mem_complete {line : Text} {segments : List Segment} (hlaid : Laid 0 line segments)
    (h : ∀ s ∈ segments, s.isName = true) {s : Segment} (hs : s ∈ complete line segments)
    (hplain : s.isName = false) : s.rendering = none := by
  obtain ⟨tiles, hcomplete, htiling, -⟩ := hlaid.fits.exists_isTiling
  rw [hcomplete] at hs
  obtain ⟨tile, htile, rfl⟩ := List.mem_map.1 hs
  -- A gap is plain text; whatever else stands in the line was given, and is a name.
  cases tile with
  | gap start stop => rfl
  | given s =>
    have hmem : s ∈ segments :=
      htiling.given_perm.mem_iff.1 (List.mem_filterMap.2 ⟨.given s, htile, rfl⟩)
    exact absurd ((h s hmem).symm.trans hplain) (by decide)

/-- Put together again, the segments of a line say what the line says. -/
theorem flatMap_text_complete {line : Text} {segments : List Segment} (hlaid : Laid 0 line segments) :
    (complete line segments).flatMap Segment.text = line := by
  obtain ⟨tiles, hcomplete, htiling, -⟩ := hlaid.fits.exists_isTiling
  rw [hcomplete, htiling.flatMap_text]

/-- The converted forms in a line are those of its names, in order. -/
theorem filterMap_rendering {segments : List Segment}
    (h : ∀ s ∈ segments, s.isName = false → s.rendering = none) :
    segments.filterMap Segment.rendering =
      (segments.filter Segment.isName).filterMap Segment.rendering := by
  induction segments with
  | nil => rfl
  | cons s rest ih =>
    obtain ⟨hs, hrest⟩ := List.forall_mem_cons.1 h
    by_cases hname : s.isName = true
    · rw [List.filter_cons_of_pos hname, List.filterMap_cons, List.filterMap_cons, ih hrest]
    · have hnone := hs (by simpa using hname)
      rw [List.filter_cons_of_neg hname, List.filterMap_cons, hnone, ih hrest]

end Scan

/-- The pairs that the names of a line leave to be remembered, in order. -/
def Transcoder.lineConversions (t : Transcoder) (line : Text) : List Entry :=
  (names line).flatMap fun s => s.raw.toList.flatMap t.gbkConversions

namespace Registry

/-! ### Lines one after the other -/

/-- What a line leaves to be remembered is the same in every style. -/
theorem annotate_snd (r : Registry) (style : Style) (line : Text) :
    (r.annotate style line).value.2 = r.remember (r.transcoder.lineConversions line) := by
  rw [value_annotate]
  rfl

/-- So is what several lines leave. -/
theorem annotateLines_snd (r : Registry) (style : Style) (lines : List Text) :
    (r.annotateLines style lines).value.2 =
      r.remember (lines.flatMap r.transcoder.lineConversions) := by
  induction lines generalizing r with
  | nil => exact (remember_nil r).symm
  | cons line rest ih =>
    have hstep := annotate_snd r style line
    have hrest := ih (r.annotate style line).value.2
    rw [hstep, transcoder_remember, ← hstep] at hrest
    rw [List.flatMap_cons, remember_append, ← hstep]
    exact hrest

/-- A line is written as it would be written first, whatever lines come before it and after it. -/
theorem getElem?_annotateLines (r : Registry) (style : Style) (before rest : List Text)
    (line : Text) :
    (r.annotateLines style (before ++ line :: rest)).value.1[before.length]? =
      some ((r.annotateLines style before).value.2.annotate style line).value.1 := by
  have hbefore := annotateLines_snd r style before
  have htranscoder : (r.annotateLines style before).value.2.transcoder = r.transcoder := by
    rw [hbefore, transcoder_remember]
  have hstarted : (r.annotateLines style before).value.2.isStarted = r.isStarted := by
    rw [hbefore, isStarted_remember]
  -- The earlier lines changed the history only, which the text does not depend on.
  rw [annotateLines_fst, annotate_fst_congr htranscoder hstarted]
  simp

/-! ### One line -/

/-- The names of a line with what is found out about them. -/
def found (r : Registry) (line : Text) : List Segment :=
  (names line).map r.annotated

theorem laid_found (r : Registry) (line : Text) : Laid 0 line (r.found line) :=
  r.laid_annotated line

/-- What is found out about a name. -/
theorem of_mem_found {r : Registry} {line : Text} {s : Segment}
    (hs : s ∈ r.found line) : s.raw = some (Escape.decode s.text) ∧
      s.gbk = isGbkName (Escape.decode s.text) ∧
      s.rendering = r.rendering? (Escape.decode s.text) := by
  obtain ⟨name, hname, rfl⟩ := List.mem_map.1 hs
  obtain ⟨token, rfl⟩ := exists_token_of_mem_names hname
  exact ⟨rfl, rfl, rfl⟩

/-- Every one of them is a name. -/
theorem isName_of_mem_found {r : Registry} {line : Text} {s : Segment} (hs : s ∈ r.found line) :
    s.isName = true := by
  rw [Segment.isName, (of_mem_found hs).1, Option.isSome_some]

/-- How a line is written in every style, from the same names `found`. -/
structure IsReported (r : Registry) (line : Text) (found : List Segment) : Prop where
  /-- They are the names that the line is read as, each in its place. -/
  places : found.map (fun s => (s.start, s.stop, s.text, s.raw)) =
    (names line).map fun s => (s.start, s.stop, s.text, s.raw)
  /-- They stand in the line in order and apart. -/
  pairwise : found.Pairwise fun a b => a.stop ≤ b.start
  /-- Each says what the line says between its ends, which are apart. -/
  isSlice : ∀ s ∈ found, s.start < s.stop ∧ IsSlice line s.start s.stop s.text
  /-- Only a GBK name has a converted form. -/
  gbk_of_rendering : ∀ s ∈ found, ∀ u ∈ s.rendering, isGbkName (Escape.decode s.text) = true
  /-- The value that is printed as JSON lists them, and nothing else. -/
  report_eq : Scan.report (complete line found) =
    .object [("entities", .list (found.map fun s => .object [
      ("gbk", .bool (isGbkName (Escape.decode s.text))),
      ("hex", .text (Hex.encode (Escape.decode s.text))),
      ("position", .object [("end", .number s.stop), ("start", .number s.start)]),
      ("text", .text s.text),
      ("utf8", .ofText? s.rendering)]))]
  /-- That value is printed, with or without colours. -/
  json_eq : ∀ colour, (r.annotate ⟨true, colour⟩ line).value.1 =
    (Json.object [("entities", .list (found.map fun s => .object [
      ("gbk", .bool (isGbkName (Escape.decode s.text))),
      ("hex", .text (Hex.encode (Escape.decode s.text))),
      ("position", .object [("end", .number s.stop), ("start", .number s.start)]),
      ("text", .text s.text),
      ("utf8", .ofText? s.rendering)]))]).pretty
  /-- No other value is printed so: what is printed tells what was listed. -/
  eq_report : ∀ colour value, (r.annotate ⟨true, colour⟩ line).value.1 = value.pretty →
    value = Scan.report (complete line found)
  /-- As text the line is cut into the names and what stands between them, and the converted form
      of each name is inserted after it.  With colours each of them is green, and nothing else
      differs. -/
  exists_parts : ∃ parts : List Segment, parts.flatMap Segment.text = line ∧
    parts.filter Segment.isName = found ∧
    parts.filterMap Segment.rendering = found.filterMap Segment.rendering ∧
    ∀ colour, (r.annotate ⟨false, colour⟩ line).value.1 = parts.flatMap fun s =>
      s.text ++ match s.rendering with
        | some u => " [".toList ++ (if colour then green u else u) ++ "]".toList
        | none => []

/-- What JSON says of a name. -/
theorem json_of_mem_found {r : Registry} {line : Text} {s : Segment} (hs : s ∈ r.found line) :
    s.json = .object [
      ("gbk", .bool (isGbkName (Escape.decode s.text))),
      ("hex", .text (Hex.encode (Escape.decode s.text))),
      ("position", .object [("end", .number s.stop), ("start", .number s.start)]),
      ("text", .text s.text),
      ("utf8", .ofText? s.rendering)] := by
  obtain ⟨hraw, hgbk, -⟩ := of_mem_found hs
  rw [Segment.json, hraw, hgbk]
  rfl

/-- The value that is printed as JSON. -/
theorem report_complete_found (r : Registry) (line : Text) :
    Scan.report (complete line (r.found line)) =
      .object [("entities", .list ((r.found line).map fun s => .object [
        ("gbk", .bool (isGbkName (Escape.decode s.text))),
        ("hex", .text (Hex.encode (Escape.decode s.text))),
        ("position", .object [("end", .number s.stop), ("start", .number s.start)]),
        ("text", .text s.text),
        ("utf8", .ofText? s.rendering)]))] := by
  rw [Scan.report,
    filter_isName_complete (r.laid_found line) fun s hs => isName_of_mem_found hs]
  refine congrArg (fun items => Json.object [("entities", .list items)]) ?_
  exact List.map_congr_left fun s hs => json_of_mem_found hs

/-- As JSON a line is that value printed. -/
theorem annotate_json_fst (r : Registry) (colour : Bool) (line : Text) :
    (r.annotate ⟨true, colour⟩ line).value.1 =
      (Scan.report (complete line (r.found line))).pretty := by
  rw [value_annotate]
  rfl

/-- **One line in every style.** -/
theorem isReported_found (r : Registry) (line : Text) : r.IsReported line (r.found line) := by
  have hlaid := r.laid_found line
  have hnames : ∀ s ∈ r.found line, s.isName = true := fun s hs => isName_of_mem_found hs
  have hfilter := filter_isName_complete hlaid hnames
  refine
    { places := ?_
      pairwise := hlaid.pairwise
      isSlice := fun s hs => ⟨hlaid.fits.start_lt_stop s hs, hlaid.fits.isSlice s hs⟩
      gbk_of_rendering := ?_
      report_eq := r.report_complete_found line
      json_eq := fun colour => by rw [r.annotate_json_fst colour line, r.report_complete_found line]
      eq_report := ?_
      exists_parts := ⟨complete line (r.found line), flatMap_text_complete hlaid, hfilter, ?_, ?_⟩ }
  · unfold found
    rw [List.map_map]
    refine List.map_congr_left fun s hs => ?_
    obtain ⟨token, rfl⟩ := exists_token_of_mem_names hs
    rfl
  · intro s hs u hu
    -- A converted form is found out for GBK names only.
    rw [Option.mem_def, (of_mem_found hs).2.2, rendering?_eq_some_iff] at hu
    exact hu.1
  · intro colour value hvalue
    rw [r.annotate_json_fst colour line] at hvalue
    exact (Json.pretty_injective hvalue).symm
  · rw [filterMap_rendering fun s hs => rendering_of_mem_complete hlaid hnames hs, hfilter]
  · intro colour
    rw [value_annotate]
    show renderText colour (complete line (r.found line)) = _
    refine List.flatMap_congr fun s _ => ?_
    rw [Segment.render]
    cases s.rendering with
    | none => exact (List.append_nil _).symm
    | some u => rfl

end Registry

/-- **All styles report alike.**  Whatever the transcoder and the state, any lines leave the same
    registry in every style.  The next line is then reported from the same names in every style,
    whatever lines come after it: JSON lists them, and text has their converted forms inserted. -/
theorem isReported_annotateLines (r : Registry) (before : List Text) (line : Text) :
    ∃ state after found,
      (∀ style, (r.annotateLines style before).value.2 = state) ∧
      (∀ style, (r.annotateLines style (before ++ [line])).value.2 = after) ∧
      (∀ style rest, (r.annotateLines style (before ++ line :: rest)).value.1[before.length]? =
        some (state.annotate style line).value.1) ∧
      state.IsReported line found := by
  refine ⟨_, _, _, fun style => r.annotateLines_snd style before,
    fun style => r.annotateLines_snd style (before ++ [line]), ?_, Registry.isReported_found _ line⟩
  intro style rest
  rw [Registry.getElem?_annotateLines, Registry.annotateLines_snd]

/-- A line with a name that an earlier line left to be remembered, and one that cannot be converted. -/
theorem isReported_annotateLines_of_known :
    ∃ state found,
      (∀ style, (Registry.annotateLines
        ⟨.ofTable "gbk" [([0xD6, 0xD0], encode ['中'])] true, false, some .empty⟩ style
          ["\\xd6\\xd0".toList]).value.2 = state) ∧
      state.history = some ⟨[⟨[0xD6, 0xD0], encode ['中']⟩]⟩ ∧
      state.IsReported "a \\xd6\\xd0 \\xb9\\xfa".toList found ∧
      found.map Segment.text = ["\\xd6\\xd0".toList, "\\xb9\\xfa".toList] ∧
      (state.annotate ⟨false, true⟩ "a \\xd6\\xd0 \\xb9\\xfa".toList).value.1 =
        "a \\xd6\\xd0 [\x1B[32m中\x1B[0m] \\xb9\\xfa".toList := by
  obtain ⟨state, -, found, hstate, -, -, hfound⟩ := isReported_annotateLines
    ⟨.ofTable "gbk" [([0xD6, 0xD0], encode ['中'])] true, false, some .empty⟩
    ["\\xd6\\xd0".toList] "a \\xd6\\xd0 \\xb9\\xfa".toList
  have hbefore := hstate ⟨false, false⟩
  rw [Registry.annotateLines_snd] at hbefore
  refine ⟨state, found, hstate, ?_, hfound, ?_, ?_⟩
  · rw [← hbefore]
    decide +kernel
  · have htexts := congrArg (List.map fun place => place.2.2.1) hfound.places
    rw [List.map_map, List.map_map] at htexts
    refine htexts.trans ?_
    decide +kernel
  · rw [← hbefore, Registry.annotate_fst]
    decide +kernel

end WifiNames
