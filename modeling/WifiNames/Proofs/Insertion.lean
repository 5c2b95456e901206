import WifiNames.Proofs.Layout
import WifiNames.Scan.Render

namespace WifiNames.Scan

open Utf8

/-!
# Insertion — a line and what is written into it

A rendered line is the line itself with more text after some of its characters.

* `insertAfter` — a text with something inserted after characters, by where those end.
* `Segment.insertion`, `insertions` — what a segment adds to its text, and what segments add in all.
* `renderText_fillGaps` — **the cursor**: segments laid along the rest of a line are rendered as
  that rest with their insertions.
* `renderText_complete` — the same for whole lines.
-/

/-! ### Inserting -/

/-- A text that begins at byte `pos`, with `inserted p` after the character that ends at byte `p`,
    for each of its characters. -/
def insertAfter (inserted : Nat → Text) (pos : Nat) : Text → Text
  | [] => []
  | c :: rest =>
    c :: (inserted (pos + c.utf8Size) ++ insertAfter inserted (pos + c.utf8Size) rest)

theorem insertAfter_append (inserted : Nat → Text) (pos : Nat) (a b : Text) :
    insertAfter inserted pos (a ++ b) =
      insertAfter inserted pos a ++ insertAfter inserted (pos + length a) b := by
  induction a generalizing pos with
  | nil => rfl
  | cons c a ih =>
    rw [List.cons_append, insertAfter, insertAfter, ih, length_cons, Nat.add_assoc]
    simp only [List.cons_append, List.append_assoc]

/-- Only what is inserted within a text matters. -/
theorem insertAfter_congr {f g : Nat → Text} {pos : Nat} {t : Text}
    (h : ∀ p, pos < p → p ≤ pos + length t → f p = g p) :
    insertAfter f pos t = insertAfter g pos t := by
  induction t generalizing pos with
  | nil => rfl
  | cons c t ih =>
    have hc := c.utf8Size_pos
    rw [length_cons] at h
    have hfirst : f (pos + c.utf8Size) = g (pos + c.utf8Size) := h _ (by omega) (by omega)
    have hrest : insertAfter f (pos + c.utf8Size) t = insertAfter g (pos + c.utf8Size) t :=
      ih fun p hp hle => h p (by omega) (by omega)
    rw [insertAfter, insertAfter, hfirst, hrest]

/-- To insert nothing changes nothing. -/
theorem insertAfter_nothing (pos : Nat) (t : Text) : insertAfter (fun _ => []) pos t = t := by
  induction t generalizing pos with
  | nil => rfl
  | cons c t ih => rw [insertAfter, ih, List.nil_append]

/-- Where nothing is inserted, the text stays as it is. -/
theorem insertAfter_of_nil {f : Nat → Text} {pos : Nat} {t : Text}
    (h : ∀ p, pos < p → p ≤ pos + length t → f p = []) : insertAfter f pos t = t := by
  have hnothing : insertAfter f pos t = insertAfter (fun _ => []) pos t := insertAfter_congr h
  rw [hnothing, insertAfter_nothing]

/-- Where nothing is inserted before the end of a text, it is followed by what is inserted there. -/
theorem insertAfter_of_last {f : Nat → Text} {pos : Nat} {t : Text} (ht : t ≠ [])
    (h : ∀ p, pos < p → p < pos + length t → f p = []) :
    insertAfter f pos t = t ++ f (pos + length t) := by
  -- The last character alone has something after it.
  obtain ⟨front, c, rfl⟩ := (List.eq_nil_or_concat t).resolve_left ht
  rw [List.concat_eq_append] at h ⊢
  have hc := c.utf8Size_pos
  have hlast : length [c] = c.utf8Size := rfl
  rw [length_append, hlast] at h ⊢
  have hfront : insertAfter f pos front = front :=
    insertAfter_of_nil fun p hp hle => h p hp (by omega)
  rw [insertAfter_append, hfront, insertAfter, insertAfter, List.append_nil, Nat.add_assoc,
    List.append_assoc, List.singleton_append]

/-! ### Segments -/

/-- What a segment adds to its text. -/
def Segment.insertion (colour : Bool) (s : Segment) : Text :=
  match s.rendering with
  | some rendering => bracketed colour rendering
  | none => []

theorem Segment.render_eq (colour : Bool) (s : Segment) :
    s.render colour = s.text ++ s.insertion colour := by
  rw [Segment.render, Segment.insertion]
  cases s.rendering with
  | none => exact (List.append_nil _).symm
  | some rendering => rfl

theorem Segment.insertion_eq (colour : Bool) (s : Segment) :
    s.insertion colour = s.rendering.elim [] (bracketed colour) := by
  rw [Segment.insertion]
  cases s.rendering <;> rfl

/-- What segments add to a line after byte `p`. -/
def insertions (colour : Bool) (segments : List Segment) (p : Nat) : Text :=
  (segments.filter (·.stop == p)).flatMap (Segment.insertion colour)

/-- Nothing is added where no segment ends. -/
theorem insertions_eq_nil {colour : Bool} {segments : List Segment} {p : Nat}
    (h : ∀ s ∈ segments, s.stop ≠ p) : insertions colour segments p = [] := by
  have hfilter : segments.filter (·.stop == p) = [] := by
    rw [List.filter_eq_nil_iff]
    simpa using h
  rw [insertions, hfilter, List.flatMap_nil]

/-- Without segments nothing is added. -/
theorem insertAfter_insertions_nil (colour : Bool) (pos : Nat) (t : Text) :
    insertAfter (insertions colour []) pos t = t :=
  insertAfter_nothing pos t

/-- Elsewhere a segment makes no difference. -/
theorem insertions_cons_of_ne {colour : Bool} {s : Segment} {more : List Segment} {p : Nat}
    (h : s.stop ≠ p) : insertions colour (s :: more) p = insertions colour more p := by
  rw [insertions, List.filter_cons_of_neg (by simpa using h), insertions]

/-- At the end of the first of laid segments only that one adds something. -/
theorem insertions_cons_self {s : Segment} {rest : Text} {more : List Segment}
    (hmore : Laid s.stop rest more) (colour : Bool) :
    insertions colour (s :: more) s.stop = s.insertion colour := by
  -- The other segments start where this one ends, or later, and end later still.
  have hnone : insertions colour more s.stop = [] := by
    refine insertions_eq_nil fun x hx => ?_
    have hx' := hmore.le_start x hx
    omega
  rw [insertions] at hnone
  rw [insertions, List.filter_cons, if_pos BEq.rfl, List.flatMap_cons, hnone, List.append_nil]

/-- Laid segments end in different places, so that each adds just what it has to add. -/
theorem Laid.insertions_stop {pos : Nat} {t : Text} {segments : List Segment}
    (h : Laid pos t segments) (colour : Bool) :
    ∀ s ∈ segments, insertions colour segments s.stop = s.insertion colour := by
  induction h with
  | nil => simp
  | @cons pos gap rest s more hstart hstop hne hmore ih =>
    refine List.forall_mem_cons.2 ⟨insertions_cons_self hmore colour, fun x hx => ?_⟩
    have hx' := hmore.le_start x hx
    -- A later segment ends behind the end of the first one.
    rw [insertions_cons_of_ne (by omega), ih x hx]

/-- What segments add to the rest of a line is what the first one adds, and what the others add
    behind it. -/
theorem insertAfter_insertions_cons {colour : Bool} {pos : Nat} {gap rest : Text} {s : Segment}
    {more : List Segment} (hstart : s.start = pos + length gap)
    (hstop : s.stop = s.start + length s.text) (hne : s.text ≠ []) (hmore : Laid s.stop rest more) :
    insertAfter (insertions colour (s :: more)) pos (gap ++ (s.text ++ rest)) =
      gap ++ (s.render colour ++ insertAfter (insertions colour more) s.stop rest) := by
  have hbehind := hmore.le_start
  have hpositive := length_pos_iff.2 hne
  -- All segments end with the first one or behind it, so nothing is added before its end.
  have hnone : ∀ p, p < s.stop → insertions colour (s :: more) p = [] := by
    intro p hp
    refine insertions_eq_nil (List.forall_mem_cons.2 ⟨by omega, fun x hx => ?_⟩)
    have hx' := hbehind x hx
    omega
  have hself := insertions_cons_self hmore colour
  have hgap : insertAfter (insertions colour (s :: more)) pos gap = gap :=
    insertAfter_of_nil fun p _ hle => hnone p (by omega)
  -- The text of the first segment is followed by what it adds, and by nothing before that.
  have htext : insertAfter (insertions colour (s :: more)) s.start s.text = s.render colour := by
    rw [insertAfter_of_last hne fun p _ hlt => hnone p (by omega), ← hstop, hself,
      Segment.render_eq]
  have hrest : insertAfter (insertions colour (s :: more)) s.stop rest =
      insertAfter (insertions colour more) s.stop rest :=
    insertAfter_congr fun p hlt _ => insertions_cons_of_ne (by omega)
  rw [insertAfter_append, insertAfter_append, ← hstart, ← hstop, hgap, htext, hrest]

/-! ### Lines -/

theorem renderText_cons (colour : Bool) (s : Segment) (more : List Segment) :
    renderText colour (s :: more) = s.render colour ++ renderText colour more := rfl

theorem render_plain (colour : Bool) (start stop : Nat) (t : Text) :
    (Segment.plain start stop t).render colour = t := rfl

/-- Before a laid segment stands what lies between it and the cursor. -/
theorem renderText_fillGaps_cons {colour : Bool} {before gap after : Text} {s : Segment}
    {more : List Segment} (hstart : s.start = length before + length gap) :
    renderText colour (fillGaps (before ++ (gap ++ after)) (length before) (s :: more)) =
      gap ++ (s.render colour ++
        renderText colour (fillGaps (before ++ (gap ++ after)) s.stop more)) := by
  rw [fillGaps]
  -- Without a gap there is no segment to fill it.
  by_cases hgap : gap = []
  · subst hgap
    have hzero : length ([] : Text) = 0 := rfl
    rw [if_neg (by omega), renderText_cons, List.nil_append, List.nil_append]
  · have hpos := length_pos_iff.2 hgap
    have hslice : slice (length before) s.start (before ++ (gap ++ after)) = gap := by
      rw [slice, dropBytes_length_append, hstart, Nat.add_sub_cancel_left,
        takeBytes_length_append]
    rw [if_pos (by omega), renderText_cons, renderText_cons, hslice, render_plain]

/-- **The cursor.** Segments laid along the end of a line are rendered as that end with their
    insertions. -/
theorem renderText_fillGaps (colour : Bool) (before : Text) {t : Text} {segments : List Segment}
    (h : Laid (length before) t segments) :
    renderText colour (fillGaps (before ++ t) (length before) segments) =
      insertAfter (insertions colour segments) (length before) t := by
  generalize hpos : length before = pos at h
  induction h generalizing before with
  -- Behind the last segment the rest of the line is one more gap, unless it is empty.
  | nil pos rest =>
    rw [insertAfter_insertions_nil, fillGaps, ← hpos]
    split
    · rw [renderText_cons, render_plain, dropBytes_length_append]
      exact List.append_nil rest
    · rename_i hlt
      have hrest : length rest = 0 := by
        rw [length_append] at hlt
        omega
      rw [length_eq_zero_iff.1 hrest]
      rfl
  | @cons pos gap rest s more hstart hstop hne hmore ih =>
    -- The cursor moves to the end of the segment, and the line before it grows.
    have hupto := Laid.length_upto hpos hstart hstop
    have hline : before ++ gap ++ s.text ++ rest = before ++ (gap ++ (s.text ++ rest)) := by simp
    have hrest := ih _ hupto
    rw [hline] at hrest
    rw [insertAfter_insertions_cons hstart hstop hne hmore, ← hrest]
    subst hpos
    exact renderText_fillGaps_cons hstart

/-- **Rendering is insertion.** Segments laid along a line are rendered, with the gaps between
    them, as the line with their insertions. -/
theorem renderText_complete (colour : Bool) {line : Text} {segments : List Segment}
    (h : Laid 0 line segments) :
    renderText colour (complete line segments) =
      insertAfter (insertions colour segments) 0 line := by
  rw [complete]
  split
  · rename_i hempty
    obtain rfl := List.isEmpty_iff.1 hempty
    rw [renderText_cons, render_plain, insertAfter_insertions_nil]
    exact List.append_nil line
  · -- Laid segments are sorted already.
    rw [h.sortByStart_eq]
    exact renderText_fillGaps colour [] h

end WifiNames.Scan
