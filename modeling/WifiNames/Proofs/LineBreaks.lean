import WifiNames.Program
import WifiNames.Proofs.Annotation
import WifiNames.Proofs.Cut
import WifiNames.Proofs.Tiling

namespace WifiNames

open Scan

/-!
# Line breaks — how many lines are written for a line

A line is annotated with converted names as they are, control characters included.  A name spells
such characters by escapes, so the text of a line may have breaks that the line itself has not.

* `Text.length_lines_flatMap` — how many lines there are in lines that are written one by one.
* `Escape.exists_escape_of_mem_decode` — an ASCII byte that a text has not as a character is
  spelled by an escape.
* `mem_renderText_complete_iff` — which characters a rendered line has.
* `Registry.Shows` — a name of a line is shown with a given character.
* `annotate_lineEnds` — where breaks come from, and what they do to a whole input.
* `annotate_lineEnds_of_escape` — one line that is written as two.
-/

/-! ### Lines of a text -/

namespace Text

theorem lines_newline (t : Text) : lines ('\n' :: t) = [] :: lines t := by
  rw [lines]

/-- A text that says something has a line. -/
theorem lines_ne_nil {t : Text} (ht : t ≠ []) : lines t ≠ [] := by
  fun_cases lines t with
  | case1 => exact absurd rfl ht
  | case2 | case3 | case4 | case5 => exact List.cons_ne_nil _ _

/-- A character that is no line feed goes with the line after it. -/
theorem length_lines_cons {c : Char} (hc : c ≠ '\n') {t : Text} (ht : t ≠ []) :
    (lines (c :: t)).length = (lines t).length := by
  -- By the equations of `lines`: what follows a carriage return is looked at only for a line feed.
  rw [lines.eq_def (c :: t)]
  split
  · rename_i heq
    cases heq
  · rename_i heq
    cases heq
    exact absurd rfl hc
  · rename_i heq
    cases heq
    rw [lines_newline]
  · rename_i heq
    cases heq
    cases hlines : lines t with
    | nil => exact absurd hlines (lines_ne_nil ht)
    | cons line more => rfl

/-- A line feed ends a line, whatever comes before it and after it. -/
theorem length_lines_append (a b : Text) :
    (lines (a ++ '\n' :: b)).length = a.count '\n' + 1 + (lines b).length := by
  induction a with
  | nil =>
    rw [List.nil_append, lines_newline, List.length_cons, List.count_nil]
    omega
  | cons c a ih =>
    -- Whatever follows `c` is not empty, since the line feed is still to come.
    by_cases hc : c = '\n'
    · rw [hc, List.cons_append, lines_newline, List.length_cons, ih, List.count_cons_self]
      omega
    · rw [List.cons_append, length_lines_cons hc (by simp), ih, List.count_cons_of_ne hc]

/-- Texts that are written line by line make a line each, and one more for each line feed in
    them. -/
theorem length_lines_flatMap (texts : List Text) :
    (lines (texts.flatMap (· ++ ['\n']))).length = texts.length + texts.flatten.count '\n' := by
  induction texts with
  | nil => rfl
  | cons t rest ih =>
    rw [List.flatMap_cons, List.append_assoc, List.singleton_append, length_lines_append, ih,
      List.length_cons, List.flatten_cons, List.count_append]
    omega

/-- A line has no line feed. -/
theorem newline_notMem_of_mem_lines {t line : Text} (h : line ∈ lines t) : '\n' ∉ line := by
  fun_induction lines t generalizing line with
  | case1 => cases h
  | case2 rest ih | case3 rest ih =>
    rcases List.mem_cons.1 h with rfl | h
    · exact List.not_mem_nil
    · exact ih h
  -- The last line of a text has one character here, which is no line feed.
  | case4 c rest hc _ hlines =>
    obtain rfl := List.mem_singleton.1 h
    exact fun hmem => hc (List.mem_singleton.1 hmem).symm
  | case5 c rest hc _ first more hlines ih =>
    rcases List.mem_cons.1 h with rfl | h
    · rw [List.mem_cons, not_or]
      exact ⟨fun heq => hc heq.symm, ih (hlines ▸ List.mem_cons_self)⟩
    · exact ih (hlines ▸ List.mem_cons_of_mem _ h)

end Text

/-! ### Escapes -/

namespace Escape

/-- Whether a piece is an escape, and not a character that stands for itself. -/
def Piece.IsEscape : Piece → Prop
  | plain _ => False
  | _ => True

/-- A text is what its pieces say. -/
theorem flatMap_text_pieces (t : Text) : (pieces t).flatMap Piece.text = t := by
  fun_induction pieces t <;> simp_all [Piece.text]

/-- A named escape stands for one byte, or for the character itself. -/
theorem Piece.namedBytes_eq (c : Char) :
    (∃ b, namedBytes c = [b]) ∨ namedBytes c = String.utf8EncodeChar c := by
  unfold namedBytes
  split
  · exact Or.inl ⟨_, rfl⟩
  · exact Or.inl ⟨_, rfl⟩
  · exact Or.inl ⟨_, rfl⟩
  · exact Or.inl ⟨_, rfl⟩
  · exact Or.inr rfl

/-- A piece that stands for an ASCII byte stands for nothing else. -/
theorem Piece.bytes_of_mem {p : Piece} {x : UInt8} (hx : x < 0x80) (h : x ∈ p.bytes) :
    p.bytes = [x] := by
  cases p with
  | plain c => exact Utf8.utf8EncodeChar_of_mem hx h
  -- A character behind a backslash that names nothing stands for itself, as a plain one does.
  | named c =>
    rcases namedBytes_eq c with ⟨b, hb⟩ | hencode
    · rw [Piece.bytes, hb] at h ⊢
      rw [List.mem_singleton.1 h]
    · rw [Piece.bytes, hencode] at h ⊢
      exact Utf8.utf8EncodeChar_of_mem hx h
  | short | full | lone =>
    rw [Piece.bytes] at h ⊢
    rw [List.mem_singleton.1 h]

/-- An ASCII byte that a text has not as a character is spelled by an escape. -/
theorem exists_escape_of_mem_decode {t : Text} {c : Char} (hc : c.toNat < 0x80) (ht : c ∉ t)
    (h : UInt8.ofNat c.toNat ∈ decode t) :
    ∃ p ∈ pieces t, p.IsEscape ∧ p.bytes = [UInt8.ofNat c.toNat] := by
  obtain ⟨p, hp, hmem⟩ := List.mem_flatMap.1 h
  have hbytes := Piece.bytes_of_mem (Utf8.ofNat_lt hc) hmem
  refine ⟨p, hp, ?_, hbytes⟩
  cases p with
  | plain d =>
    -- The character would be `c` itself, which the text has not.
    obtain rfl : d = c := Utf8.utf8EncodeChar_inj (hbytes.trans (Utf8.utf8EncodeChar_of_lt hc).symm)
    refine ht ?_
    rw [← flatMap_text_pieces t]
    exact List.mem_flatMap.2 ⟨.plain d, hp, List.mem_singleton_self d⟩
  | named | short | full | lone => trivial

end Escape

/-! ### Characters of a rendered line -/

namespace Scan

/-- Segments have the characters that they say and those that they add. -/
theorem mem_renderText_iff {colour : Bool} {segments : List Segment} {c : Char} :
    c ∈ renderText colour segments ↔
      c ∈ segments.flatMap Segment.text ∨ ∃ s ∈ segments, c ∈ s.insertion colour := by
  simp only [renderText, Segment.render_eq, List.mem_flatMap, List.mem_append]
  constructor
  · rintro ⟨s, hs, hc | hc⟩
    · exact Or.inl ⟨s, hs, hc⟩
    · exact Or.inr ⟨s, hs, hc⟩
  · rintro (⟨s, hs, hc⟩ | ⟨s, hs, hc⟩)
    · exact ⟨s, hs, Or.inl hc⟩
    · exact ⟨s, hs, Or.inr hc⟩

/-- A rendered line has the characters of the line, and those that its segments add. -/
theorem mem_renderText_complete_iff {colour : Bool} {line : Text} {segments : List Segment}
    (h : Fits line segments) {c : Char} :
    c ∈ renderText colour (complete line segments) ↔
      c ∈ line ∨ ∃ s ∈ segments, c ∈ s.insertion colour := by
  obtain ⟨tiles, hcomplete, htiling, -⟩ := h.exists_isTiling
  -- The tiles say what the line says, and only the given ones add something.
  rw [hcomplete, mem_renderText_iff, htiling.flatMap_text]
  refine or_congr_right ?_
  constructor
  · rintro ⟨_, hs, hc⟩
    obtain ⟨tile, htile, rfl⟩ := List.mem_map.1 hs
    cases tile with
    | gap start stop => exact absurd hc List.not_mem_nil
    | given s =>
      refine ⟨s, htiling.given_perm.mem_iff.1 ?_, hc⟩
      exact List.mem_filterMap.2 ⟨.given s, htile, rfl⟩
  · rintro ⟨s, hs, hc⟩
    obtain ⟨tile, htile, hgiven⟩ := List.mem_filterMap.1 (htiling.given_perm.mem_iff.2 hs)
    cases tile with
    | gap start stop => cases hgiven
    | given x =>
      cases hgiven
      exact ⟨s, List.mem_map_of_mem htile, hc⟩

/-- The characters that turn colours on and off are kept apart from the text. -/
theorem mem_keepGreen_iff {c : Char} (hon : c ∉ greenOn) (hoff : c ∉ resetAll) (t : Text) :
    c ∈ keepGreen t ↔ c ∈ t := by
  fun_induction keepGreen t with
  | case1 => rfl
  | case2 rest ih =>
    -- A code that turns colours off is followed by one that turns green on again.
    have hcode : '\x1B' :: '[' :: '0' :: 'm' :: rest = resetAll ++ rest := rfl
    rw [hcode, List.mem_append, List.mem_append, List.mem_append, ih]
    simp only [hon, hoff, false_or]
  | case3 d rest _ ih => rw [List.mem_cons, List.mem_cons, ih]

theorem isLineEnd_iff {c : Char} : isLineEnd c = true ↔ c = '\r' ∨ c = '\n' := by
  rw [isLineEnd, Bool.or_eq_true, beq_iff_eq, beq_iff_eq]

/-- A break in an annotation is a break in the converted name. -/
theorem mem_bracketed_iff {c : Char} (hc : isLineEnd c = true) (colour : Bool) (u : Text) :
    c ∈ bracketed colour u ↔ c ∈ u := by
  -- Neither the brackets nor the codes for colours have a break.
  have hcode : c ∉ greenOn ∧ c ∉ resetAll ∧ c ∉ " [".toList ∧ c ∉ "]".toList := by
    rcases isLineEnd_iff.1 hc with rfl | rfl <;> decide
  obtain ⟨hon, hoff, hopen, hclose⟩ := hcode
  have hbody : c ∈ (if colour = true then green u else u) ↔ c ∈ u := by
    split
    · rw [green, List.mem_append, List.mem_append, mem_keepGreen_iff hon hoff]
      simp only [hon, hoff, false_or, or_false]
    · rfl
  unfold bracketed
  rw [List.mem_append, List.mem_append, hbody]
  simp only [hopen, hclose, false_or, or_false]

end Scan

/-! ### Annotated lines -/

namespace Registry

variable {r : Registry} {c : Char}

/-- Whether some name in a line is shown in a converted form that has the character `c`. -/
def Shows (r : Registry) (line : Text) (c : Char) : Prop :=
  ∃ s ∈ names line, ∃ raw ∈ s.raw, ∃ u, r.Renders raw u ∧ c ∈ u

/-- No name is shown in two ways. -/
theorem Renders.unique {raw : Bytes} {u v : Text} (hu : r.Renders raw u) (hv : r.Renders raw v) :
    u = v :=
  Option.some.inj ((rendering?_eq_some_iff.2 hu).symm.trans (rendering?_eq_some_iff.2 hv))

/-- A break that a segment adds is a break in what its name is shown as. -/
theorem mem_insertion_annotated_iff {s : Segment} (hs : s.rendering = none)
    (hc : isLineEnd c = true) (colour : Bool) :
    c ∈ (r.annotated s).insertion colour ↔ ∃ raw ∈ s.raw, ∃ u, r.Renders raw u ∧ c ∈ u := by
  by_cases h : ∃ raw ∈ s.raw, ∃ u, r.Renders raw u
  · obtain ⟨raw, hraw, u, hu⟩ := h
    rw [insertion_annotated hraw hu, mem_bracketed_iff hc]
    constructor
    · intro hmem
      exact ⟨raw, hraw, u, hu, hmem⟩
    · rintro ⟨other, hother, v, hv, hmem⟩
      -- A segment has one name, and that name is shown in one way.
      obtain rfl := Option.mem_unique hraw hother
      rwa [hu.unique hv]
  · have hnil : (r.annotated s).insertion colour = [] :=
      insertion_annotated_eq_nil hs (fun raw hraw u hu => h ⟨raw, hraw, u, hu⟩) colour
    rw [hnil]
    constructor
    · exact fun hmem => absurd hmem List.not_mem_nil
    · rintro ⟨raw, hraw, u, hu, -⟩
      exact absurd ⟨raw, hraw, u, hu⟩ h

/-- **Breaks in an annotated line** come from the line, or from what its names are shown as. -/
theorem mem_annotate_iff (hc : isLineEnd c = true) (colour : Bool) (line : Text) :
    c ∈ (r.annotate ⟨false, colour⟩ line).value.1 ↔ c ∈ line ∨ r.Shows line c := by
  rw [value_annotate, render, if_neg Bool.false_ne_true,
    mem_renderText_complete_iff (r.laid_annotated line).fits]
  refine or_congr_right ?_
  constructor
  · rintro ⟨_, hmem, hadded⟩
    obtain ⟨s, hs, rfl⟩ := List.mem_map.1 hmem
    exact ⟨s, hs, (mem_insertion_annotated_iff (rendering_of_mem_names hs) hc colour).1 hadded⟩
  · rintro ⟨s, hs, hshown⟩
    exact ⟨r.annotated s, List.mem_map_of_mem hs,
      (mem_insertion_annotated_iff (rendering_of_mem_names hs) hc colour).2 hshown⟩

/-- What a name is shown as is what a converter keeps of a text that is read cell by cell. -/
theorem Renders.exists_readsByCell {converter : Converter}
    (hr : r.transcoder = converter.transcoder) {charset : Charset}
    (hlabel : Charset.ofLabel? converter.charset = some charset) (hfamily : charset.IsGbkFamily)
    {raw : Bytes} {u : Text} (h : r.Renders raw u) :
    ∃ cells text, charset.ReadsByCell raw cells text ∧ u = converter.shown text := by
  obtain ⟨hgbk, -, hu⟩ := h
  obtain ⟨cells, text, hreads, hok⟩ := converter.exists_readsByCell hlabel hfamily hgbk
  rw [hr] at hu
  have hencode := Except.ok.inj (hu.symm.trans hok)
  exact ⟨cells, text, hreads, Utf8.encode_inj.1 hencode⟩

/-- A control character that a name is shown with stands in the name before its first zero byte, and
    is shown if the name is short enough. -/
theorem Renders.mem_iff {converter : Converter} (hr : r.transcoder = converter.transcoder)
    {charset : Charset} (hlabel : Charset.ofLabel? converter.charset = some charset)
    (hfamily : charset.IsGbkFamily) {raw : Bytes} {u : Text} (h : r.Renders raw u)
    (hc : c.toNat < 0x40) :
    (c ∈ u → UInt8.ofNat c.toNat ∈ beforeZero raw) ∧
    (3 * raw.length ≤ 2 * converter.capacity → UInt8.ofNat c.toNat ∈ beforeZero raw → c ∈ u) := by
  obtain ⟨cells, text, hreads, rfl⟩ := h.exists_readsByCell hr hlabel hfamily
  -- No pair has such a byte or stands for such a character, so the cells tell one from the other.
  rw [← hreads.mem_beforeNul_iff hc]
  constructor
  · intro hmem
    exact (Utf8.truncate_isPrefix _ _).subset hmem
  · intro hroom hmem
    -- Text takes three bytes where the name takes two, so none of it is cut off.
    have hle := hreads.length_encode_le
    rw [Utf8.length_encode] at hle
    rwa [Converter.shown_eq_beforeNul (by omega)]

end Registry

/-- A name is what the escapes of its segment stand for, and the segment says nothing that the line
    does not say. -/
theorem decode_of_mem_names {line : Text} {s : Segment} (hs : s ∈ names line) {raw : Bytes}
    (hraw : raw ∈ s.raw) : raw = Escape.decode s.text ∧ s.text ⊆ line := by
  obtain ⟨before, after, hline, -⟩ := (laid_names line).fits.isSlice s hs
  obtain ⟨token, rfl⟩ := Registry.exists_token_of_mem_names hs
  refine ⟨(Option.some.inj hraw).symm, fun x hx => ?_⟩
  rw [hline]
  simp [hx]

/-! ### Scan output -/

/-- What is written for scan output. -/
theorem out_annotate {content : Bytes} {text : Text} (htext : Utf8.decode? content = some text)
    (style : Style) (r : Registry) :
    (Program.annotate style content r).value.1.out =
      ((Text.lines text).map fun line => (r.annotate style line).value.1).flatMap (· ++ ['\n']) := by
  rw [← Registry.annotateLines_fst, Program.annotate, htext]
  rfl

/-- What is written for scan output has a line for each line of it exactly if no annotated line has
    a line feed. -/
theorem length_lines_out_iff {content : Bytes} {text : Text}
    (htext : Utf8.decode? content = some text) (style : Style) (r : Registry) :
    (Text.lines (Program.annotate style content r).value.1.out).length = (Text.lines text).length ↔
      ∀ line ∈ Text.lines text, '\n' ∉ (r.annotate style line).value.1 := by
  rw [out_annotate htext, Text.length_lines_flatMap, List.length_map, Nat.add_eq_left,
    List.count_eq_zero, List.mem_flatten]
  constructor
  · intro hnone line hline hmem
    exact hnone ⟨_, List.mem_map_of_mem hline, hmem⟩
  · rintro hnone ⟨t, ht, hmem⟩
    obtain ⟨line, hline, rfl⟩ := List.mem_map.1 ht
    exact hnone line hline hmem

/-- **Breaks.**  A line that is annotated as text has a break that the line has not exactly if a
    name is shown with that break.  Then the name has it before its first zero byte, where an escape
    of the line spells it, and every such name is shown with it unless it is too long.  So there is
    one line of output for each line of scan output exactly if no name is shown with a line feed. -/
theorem annotate_lineEnds {r : Registry} (hr : r.transcoder = Converter.default.transcoder)
    (colour : Bool) :
    (∀ line c, isLineEnd c = true → c ∉ line →
      (c ∈ (r.annotate ⟨false, colour⟩ line).value.1 ↔ r.Shows line c) ∧
      ∀ s ∈ names line, ∀ raw ∈ s.raw, ∀ u, r.Renders raw u →
        (c ∈ u → UInt8.ofNat c.toNat ∈ beforeZero raw ∧
          ∃ p ∈ Escape.pieces s.text, p.IsEscape ∧ p.bytes = [UInt8.ofNat c.toNat]) ∧
        (raw.length ≤ 341 → UInt8.ofNat c.toNat ∈ beforeZero raw → c ∈ u)) ∧
    ∀ content text, Utf8.decode? content = some text →
      ((Text.lines (Program.annotate ⟨false, colour⟩ content r).value.1.out).length =
          (Text.lines text).length ↔
        ∀ line ∈ Text.lines text, ¬ r.Shows line '\n') := by
  refine ⟨?_, ?_⟩
  · intro line c hc hline
    have hlow : c.toNat < 0x40 := by
      rcases isLineEnd_iff.1 hc with rfl | rfl <;> decide
    refine ⟨?_, ?_⟩
    · rw [Registry.mem_annotate_iff hc colour line, or_iff_right hline]
    · intro s hs raw hraw u hu
      obtain ⟨rfl, hsub⟩ := decode_of_mem_names hs hraw
      have hlabel : Charset.ofLabel? Converter.default.charset = some .gbk := rfl
      obtain ⟨hmem, hkept⟩ := hu.mem_iff hr hlabel (Or.inl rfl) hlow
      refine ⟨fun hcu => ⟨hmem hcu, ?_⟩, fun hlen => hkept (show _ ≤ 2 * 512 by omega)⟩
      -- What is left before the zero byte is part of what the escapes stand for.
      have hbyte := (List.takeWhile_sublist _).subset (hmem hcu)
      exact Escape.exists_escape_of_mem_decode (by omega) (fun hct => hline (hsub hct)) hbyte
  · intro content text htext
    rw [length_lines_out_iff htext]
    refine forall₂_congr fun line hline => ?_
    -- A line of the input has no line feed, so only names can bring one.
    have hfree := Text.newline_notMem_of_mem_lines hline
    rw [Registry.mem_annotate_iff (by decide) colour line, or_iff_right hfree]

/-- Two names without breaks are written on two lines. -/
theorem annotate_lineEnds_of_pairs :
    let r := (Registry.ofTranscoder Converter.default.transcoder false).run [.start]
    let text := "a\t\\xd6\\xd0\nb\t\\xb9\\xfa\n".toList
    r.transcoder = Converter.default.transcoder ∧ Utf8.decode? (Utf8.encode text) = some text ∧
      (Text.lines text).length = 2 ∧
      (Text.lines (Program.annotate ⟨false, true⟩ (Utf8.encode text) r).value.1.out).length = 2 := by
  intro r text
  have hr : r.transcoder = Converter.default.transcoder := rfl
  have htext : Utf8.decode? (Utf8.encode text) = some text := Utf8.decode?_eq_some_iff.2 rfl
  have hlines : (Text.lines text).length = 2 := by decide
  have hclean : ∀ line ∈ Text.lines text, ∀ s ∈ names line, ∀ raw ∈ s.raw,
      UInt8.ofNat '\n'.toNat ∉ beforeZero raw := by
    decide +kernel
  obtain ⟨hlocal, hcount⟩ := annotate_lineEnds hr true
  refine ⟨hr, htext, hlines, ?_⟩
  rw [(hcount _ text htext).2, hlines]
  rintro line hline ⟨s, hs, raw, hraw, u, hu, hmem⟩
  have hfree := Text.newline_notMem_of_mem_lines hline
  obtain ⟨hbyte, -⟩ := ((hlocal line '\n' rfl hfree).2 s hs raw hraw u hu).1 hmem
  exact hclean line hline s hs raw hraw hbyte

/-- A name whose line feed is spelled by an escape: its line is written as two. -/
theorem annotate_lineEnds_of_escape :
    let r := (Registry.ofTranscoder Converter.default.transcoder false).run [.start]
    let line := "\\xd6\\xd0\\n".toList
    r.transcoder = Converter.default.transcoder ∧ '\n' ∉ line ∧ '\r' ∉ line ∧
      (r.annotate ⟨false, false⟩ line).value.1 = "\\xd6\\xd0\\n [中\n]".toList ∧
      (Text.lines (Program.annotate ⟨false, false⟩ (Utf8.encode line) r).value.1.out).length = 2 := by
  intro r line
  have hshown : (r.annotate ⟨false, false⟩ line).value.1 = "\\xd6\\xd0\\n [中\n]".toList := by
    rw [Registry.annotate_fst]
    decide +kernel
  refine ⟨rfl, by decide, by decide, hshown, ?_⟩
  have hlines : Text.lines line = [line] := by decide
  rw [out_annotate (Utf8.decode?_eq_some_iff.2 rfl), hlines, List.map_singleton, hshown]
  decide

end WifiNames
