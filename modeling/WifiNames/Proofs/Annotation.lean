import WifiNames.Proofs.Insertion
import WifiNames.Proofs.Registry
import WifiNames.Proofs.Utf8.Reading

namespace WifiNames

open Scan Utf8

/-!
# Annotation — what becomes of a line

A line is annotated from left to right, and each name that is converted is remembered at once.
What is remembered does not bear on the text, so that every name can be looked at on its own.

* `Registry.Renders` — a name is shown in a converted form.
* `Registry.annotated` — a segment with what is found out about its name.
* `Registry.value_annotate` — an annotated line, in any style, and the registry afterwards.
* `Registry.IsAnnotated`, `Registry.isAnnotated_annotate` — a line annotated as plain text.
-/

namespace Registry

/-! ### Names -/

/-- A name is shown as `u` in a line: it is a GBK name, a session is open, and the transcoder makes
    the UTF-8 form of `u` of it. -/
def Renders (r : Registry) (raw : Bytes) (u : Text) : Prop :=
  isGbkName raw = true ∧ r.isStarted = true ∧ (r.transcoder.toUtf8 raw).value = .ok (encode u)

/-- What a name is shown as in a line, if anything. -/
def rendering? (r : Registry) (raw : Bytes) : Option Text :=
  if isGbkName raw && r.isStarted then (r.transcoder.convert? raw).bind decode? else none

theorem rendering?_eq_some_iff {r : Registry} {raw : Bytes} {u : Text} :
    r.rendering? raw = some u ↔ r.Renders raw u := by
  rw [rendering?, Renders, ← and_assoc, ← Bool.and_eq_true]
  split
  · rename_i hopen
    -- To be decoded to `u` is to be the UTF-8 form of `u`.
    rw [Option.bind_eq_some_iff]
    simp only [hopen, true_and, decode?_eq_some_iff, exists_eq_right',
      Transcoder.convert?_eq_some_iff]
  · rename_i hclosed
    simp [hclosed]

/-- What a name is shown as does not depend on what is remembered. -/
theorem rendering?_congr {r other : Registry} (ht : other.transcoder = r.transcoder)
    (hs : other.isStarted = r.isStarted) : other.rendering? = r.rendering? := by
  funext raw
  rw [rendering?, rendering?, ht, hs]

/-! ### Segments -/

/-- A segment with what is found out about its name. -/
def annotated (r : Registry) (s : Segment) : Segment :=
  match s.raw with
  | none => s
  | some raw => { s with gbk := isGbkName raw, rendering := r.rendering? raw }

/-- A segment stays in its place. -/
theorem annotated_place (r : Registry) (s : Segment) :
    (r.annotated s).start = s.start ∧ (r.annotated s).stop = s.stop ∧
      (r.annotated s).text = s.text := by
  rw [annotated]
  split <;> exact ⟨rfl, rfl, rfl⟩

theorem annotated_congr {r other : Registry} (ht : other.transcoder = r.transcoder)
    (hs : other.isStarted = r.isStarted) : other.annotated = r.annotated := by
  funext s
  rw [annotated, annotated, rendering?_congr ht hs]

/-- The name of a segment without a converted form is classified and converted. -/
theorem annotateName_fst (r : Registry) {s : Segment} (hs : s.rendering = none) (raw : Bytes) :
    (r.annotateName s raw).value.1 =
      { s with gbk := isGbkName raw, rendering := r.rendering? raw } := by
  rw [annotateName, rendering?]
  cases hgbk : isGbkName raw with
  | false => simp [hs]
  | true =>
    rw [if_pos rfl, Noted.value_bind, value_convert, Transcoder.convert?]
    cases (r.transcoder.toUtf8 raw).value with
    -- Without a conversion, or without a session for it, the segment keeps its empty rendering.
    | error e => simp [hs, Except.toOption]
    | ok converted => cases r.isStarted <;> simp [hs, Except.toOption]

theorem annotateSegment_fst (r : Registry) {s : Segment} (hs : s.rendering = none) :
    (r.annotateSegment s).value.1 = r.annotated s := by
  rw [annotateSegment, annotated]
  cases hraw : s.raw with
  | none => rfl
  | some raw =>
    have hname := annotateName_fst r hs raw
    rw [hraw] at hname
    exact hname

/-- Segments are annotated each on its own, although the registry changes on the way. -/
theorem annotateSegments_fst (r : Registry) {segments : List Segment}
    (hsegments : ∀ s ∈ segments, s.rendering = none) :
    (r.annotateSegments segments).value.1 = segments.map r.annotated := by
  induction segments generalizing r with
  | nil => rfl
  | cons s rest ih =>
    obtain ⟨hs, hrest⟩ := List.forall_mem_cons.1 hsegments
    have hfirst := annotateSegment_fst r hs
    have hmore := ih (r.annotateSegment s).value.2 hrest
    -- What the first segment leaves to be remembered does not bear on the others.
    have hsnd := annotateSegment_snd r s
    have htranscoder : (r.annotateSegment s).value.2.transcoder = r.transcoder := by
      rw [hsnd, transcoder_remember]
    have hstarted : (r.annotateSegment s).value.2.isStarted = r.isStarted := by
      rw [hsnd, isStarted_remember]
    rw [annotated_congr htranscoder hstarted] at hmore
    rw [List.map_cons, ← hfirst, ← hmore]
    rfl

/-- What is inserted after a name that is shown in a converted form. -/
theorem insertion_annotated {r : Registry} {s : Segment} {raw : Bytes} {u : Text}
    (hraw : raw ∈ s.raw) (hu : r.Renders raw u) (colour : Bool) :
    (r.annotated s).insertion colour = bracketed colour u := by
  rw [Option.mem_def] at hraw
  rw [annotated, hraw, Segment.insertion]
  simp only [rendering?_eq_some_iff.2 hu]

/-- After any other segment nothing is inserted. -/
theorem insertion_annotated_eq_nil {r : Registry} {s : Segment} (hs : s.rendering = none)
    (hnone : ∀ raw ∈ s.raw, ∀ u, ¬ r.Renders raw u) (colour : Bool) :
    (r.annotated s).insertion colour = [] := by
  rw [annotated, Segment.insertion]
  cases hraw : s.raw with
  | none => simp [hs]
  | some raw =>
    -- What could be inserted is a form that the name is shown in, and there is none.
    have hrendering : r.rendering? raw = none := by
      rw [Option.eq_none_iff_forall_ne_some]
      intro u hu
      exact hnone raw hraw u (rendering?_eq_some_iff.1 hu)
    simp [hrendering]

/-! ### Lines -/

/-- A name comes with the bytes that its escapes stand for, and without a converted form. -/
theorem exists_token_of_mem_names {line : Text} {s : Segment} (hs : s ∈ names line) :
    ∃ token, s = .ofToken token := by
  rw [names] at hs
  split at hs
  · rename_i token _
    exact ⟨token, List.mem_singleton.1 hs⟩
  · obtain ⟨token, -, rfl⟩ := List.mem_map.1 hs
    exact ⟨token, rfl⟩

theorem rendering_of_mem_names {line : Text} {s : Segment} (hs : s ∈ names line) :
    s.rendering = none := by
  obtain ⟨token, rfl⟩ := exists_token_of_mem_names hs
  rfl

/-- **Annotation.** A line is completed around its names, each annotated on its own, and what was
    converted is remembered from left to right. -/
theorem value_annotate (r : Registry) (style : Style) (line : Text) :
    (r.annotate style line).value =
      (render style (complete line ((names line).map r.annotated)),
        r.remember ((names line).flatMap fun s => s.raw.toList.flatMap r.transcoder.gbkConversions))
    := by
  have hnames : ∀ s ∈ names line, s.rendering = none := fun _ => rendering_of_mem_names
  have hsegments := annotateSegments_fst r hnames
  have hafter := annotateSegments_snd r (names line)
  rw [← hsegments, ← hafter]
  rfl

/-- The text depends on the transcoder and on whether a session is open, and on nothing else. -/
theorem annotate_fst_congr {r other : Registry} (ht : other.transcoder = r.transcoder)
    (hs : other.isStarted = r.isStarted) (style : Style) (line : Text) :
    (other.annotate style line).value.1 = (r.annotate style line).value.1 := by
  rw [value_annotate, value_annotate, annotated_congr ht hs]

/-- Lines are annotated each on its own, although the registry changes on the way. -/
theorem annotateLines_fst (r : Registry) (style : Style) (lines : List Text) :
    (r.annotateLines style lines).value.1 =
      lines.map fun line => (r.annotate style line).value.1 := by
  induction lines generalizing r with
  | nil => rfl
  | cons line rest ih =>
    have hrest := ih (r.annotate style line).value.2
    have hsnd := congrArg Prod.snd (value_annotate r style line)
    -- The first line leaves what the text depends on, although it may leave more remembered.
    have htranscoder : (r.annotate style line).value.2.transcoder = r.transcoder := by
      rw [hsnd, transcoder_remember]
    have hstarted : (r.annotate style line).value.2.isStarted = r.isStarted := by
      rw [hsnd, isStarted_remember]
    rw [funext fun l => annotate_fst_congr htranscoder hstarted style l] at hrest
    rw [List.map_cons, ← hrest]
    rfl

/-- To annotate a line again makes no difference. -/
theorem annotate_again (r : Registry) (style : Style) (line : Text) :
    ((r.annotate style line).value.2.annotate style line).value = (r.annotate style line).value := by
  rw [value_annotate r]
  rw [value_annotate, annotated_congr (transcoder_remember r _) (isStarted_remember r _),
    transcoder_remember, remember_remember_self]

/-- The names of a line stay where they are when they are annotated. -/
theorem laid_annotated (r : Registry) (line : Text) :
    Laid 0 line ((names line).map r.annotated) :=
  (laid_names line).map r.annotated_place

/-- An annotated line is the line with what is inserted after its names. -/
theorem annotate_fst (r : Registry) (colour : Bool) (line : Text) :
    (r.annotate ⟨false, colour⟩ line).value.1 =
      insertAfter (insertions colour ((names line).map r.annotated)) 0 line := by
  rw [value_annotate, render, if_neg Bool.false_ne_true]
  exact renderText_complete colour (r.laid_annotated line)

/-- After a name that is shown in a converted form, that form is inserted. -/
theorem insertions_annotated {r : Registry} {line : Text} {s : Segment} (hs : s ∈ names line)
    {raw : Bytes} (hraw : raw ∈ s.raw) {u : Text} (hu : r.Renders raw u) (colour : Bool) :
    insertions colour ((names line).map r.annotated) s.stop = bracketed colour u := by
  have hstop := (r.laid_annotated line).insertions_stop colour _ (List.mem_map_of_mem hs)
  rw [(r.annotated_place s).2.1] at hstop
  rw [hstop, insertion_annotated hraw hu]

/-- Nothing is inserted anywhere else. -/
theorem insertions_annotated_eq_nil {r : Registry} {line : Text} {p : Nat}
    (h : ∀ s ∈ names line, s.stop = p → ∀ raw ∈ s.raw, ∀ u, ¬ r.Renders raw u) (colour : Bool) :
    insertions colour ((names line).map r.annotated) p = [] := by
  rw [insertions, List.flatMap_eq_nil_iff]
  intro x hx
  obtain ⟨hmem, hstop⟩ := List.mem_filter.1 hx
  obtain ⟨s, hs, rfl⟩ := List.mem_map.1 hmem
  rw [beq_iff_eq, (r.annotated_place s).2.1] at hstop
  exact insertion_annotated_eq_nil (rendering_of_mem_names hs) (h s hs hstop) colour

/-! ### Plain text -/

/-- A line annotated as plain text without colours, and the registry afterwards. -/
structure IsAnnotated (r : Registry) (line out : Text) (after : Registry) : Prop where
  /-- The names stand in the line in order and apart, so that their ends are places in it. -/
  laid : Laid 0 line (names line)
  /-- Directly after each name that is shown in a converted form, that form is inserted in
      brackets.  Nothing else is inserted. -/
  exists_inserted : ∃ inserted : Nat → Text, out = insertAfter inserted 0 line ∧
    (∀ s ∈ names line, ∀ raw ∈ s.raw, ∀ u, r.Renders raw u →
      inserted s.stop = " [".toList ++ u ++ "]".toList) ∧
    ∀ p, (∀ s ∈ names line, s.stop = p → ∀ raw ∈ s.raw, ∀ u, ¬ r.Renders raw u) → inserted p = []
  /-- Without a session, or without a GBK name, the line stays as it is. -/
  eq_line : (r.isStarted = false ∨ ∀ s ∈ names line, ∀ raw ∈ s.raw, isGbkName raw = false) →
    out = line
  /-- What is remembered does not bear on the text. -/
  eq_of_history : ∀ other : Registry, other.transcoder = r.transcoder →
    other.isStarted = r.isStarted → (other.annotate ⟨false, false⟩ line).value.1 = out
  /-- Outside of a session nothing is remembered. -/
  after_of_closed : r.history = none → after = r
  /-- Within a session the conversions of GBK names that succeed are remembered in the order of the
      names, unless the raw name was known already. -/
  after_of_open : ∀ h, r.history = some h → after = r.withHistory (some ⟨h.entries ++
    (firstPerRaw ((names line).flatMap fun s =>
      s.raw.toList.flatMap r.transcoder.gbkConversions)).filter (!h.knows ·.raw)⟩)
  /-- The same line again gives the same text, and nothing new to remember. -/
  again : (after.annotate ⟨false, false⟩ line).value = (out, after)

/-- **A line end to end.**  Whatever the line, the transcoder and the state, a line is annotated by
    insertions after its names, and its conversions are remembered. -/
theorem isAnnotated_annotate (r : Registry) (line : Text) :
    r.IsAnnotated line (r.annotate ⟨false, false⟩ line).value.1
      (r.annotate ⟨false, false⟩ line).value.2 := by
  have hvalue := value_annotate r ⟨false, false⟩ line
  refine
    { laid := laid_names line
      exists_inserted := ⟨insertions false ((names line).map r.annotated),
        annotate_fst r false line,
        fun s hs raw hraw u hu => insertions_annotated hs hraw hu false,
        fun p hp => insertions_annotated_eq_nil hp false⟩
      eq_line := ?_
      eq_of_history := fun other ht hs => annotate_fst_congr ht hs ⟨false, false⟩ line
      after_of_closed := ?_
      after_of_open := ?_
      again := annotate_again r ⟨false, false⟩ line }
  · intro h
    rw [annotate_fst]
    refine insertAfter_of_nil fun p _ _ => insertions_annotated_eq_nil ?_ false
    -- A name that is shown converted is a GBK name in an open session; here one of the two fails.
    rintro s hs - raw hraw u ⟨hgbk, hopen, -⟩
    rcases h with hclosed | hnone
    · rw [hopen] at hclosed
      cases hclosed
    · rw [hnone s hs raw hraw] at hgbk
      cases hgbk
  · intro hr
    rw [hvalue]
    exact remember_of_isStarted (by rw [isStarted, hr, Option.isSome_none]) _
  · intro h hr
    rw [hvalue, remember, hr, Option.map_some, ← History.entries_addAll]

/-- A name twice, one that the transcoder does not know and one that is no GBK name. -/
theorem isAnnotated_annotate_of_repeated :
    ∃ out after, IsAnnotated
        ⟨.ofTable "gbk" [([0xD6, 0xD0], encode ['中'])] true, false, some .empty⟩
        "a \\xd6\\xd0 b \\xd6\\xd0 \\xb9\\xfa \\xff".toList out after ∧
      out = "a \\xd6\\xd0 [中] b \\xd6\\xd0 [中] \\xb9\\xfa \\xff".toList ∧
      after.history = some ⟨[⟨[0xD6, 0xD0], encode ['中']⟩]⟩ := by
  have hline := isAnnotated_annotate
    ⟨.ofTable "gbk" [([0xD6, 0xD0], encode ['中'])] true, false, some .empty⟩
    "a \\xd6\\xd0 b \\xd6\\xd0 \\xb9\\xfa \\xff".toList
  refine ⟨_, _, hline, ?_, ?_⟩
  · rw [annotate_fst]
    decide +kernel
  · rw [hline.after_of_open .empty rfl]
    decide +kernel

/-- The name of a scan result is shown in front of the end of its line. -/
example : (annotate ⟨.ofTable "gbk" [([0xD6, 0xD0], encode ['中'])] true, false, some .empty⟩
    ⟨false, false⟩ "ssid\t\\xd6\\xd0\n".toList).value.1 = "ssid\t\\xd6\\xd0 [中]\n".toList := by
  rw [annotate_fst]
  decide +kernel

end Registry

end WifiNames
