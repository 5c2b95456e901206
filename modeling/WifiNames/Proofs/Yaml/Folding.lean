import WifiNames.Yaml.Token.Folding
import WifiNames.Yaml.Writer

namespace WifiNames.Yaml

/-!
# Folding — texts that it leaves as they are

Folding changes a text only at a line feed and at spaces next to a break.  Where there are none,
what was read so far is the text as it was written, and a character more is a character more of it.

* `isBlank_iff` — the only blank among the characters that are written.
* `Folding.EndsIn` — what is read so far ends in a certain character.
* `Folding.endsIn_push`, `Folding.EndsIn.space`, `Folding.EndsIn.break` — **one more character.**
-/

/-! ### Characters -/

/-- The space is the only blank that is written as it is. -/
theorem isBlank_iff {c : Char} (hc : isPrintable c = true) : isBlank c = true ↔ c = ' ' := by
  have htab : c ≠ '\t' := by
    rintro rfl
    exact absurd hc (by decide)
  simp [isBlank, htab]

theorem isBreak_of_isBlank {c : Char} (hc : isBlank c = true) : isBreak c = false := by
  have hcases : c = ' ' ∨ c = '\t' := by simpa [isBlank] using hc
  rcases hcases with rfl | rfl <;> rfl

/-- Lines are written in printable characters. -/
theorem isPrintable_writeLines {write : Char → Text} {t : Text}
    (ht : ∀ c ∈ t, isPrintable c = true)
    (hwrite : ∀ c ∈ t, ∀ d ∈ write c, isPrintable d = true) (fresh : Bool) :
    ∀ d ∈ writeLines write fresh t, isPrintable d = true := by
  induction t generalizing fresh with
  | nil => exact nofun
  | cons c t ih =>
    have ih := ih (fun d hd => ht d (List.mem_cons_of_mem c hd))
      (fun d hd => hwrite d (List.mem_cons_of_mem c hd))
    have hmargin : ∀ d ∈ margin, isPrintable d = true := List.all_eq_true.1 rfl
    intro d hd
    rw [writeLines] at hd
    -- A break is written as it is; anything else may have the margin before it.
    split at hd
    · rcases List.mem_cons.1 hd with rfl | hd
      · exact ht d List.mem_cons_self
      · exact ih true d hd
    · simp only [List.mem_append] at hd
      rcases hd with (hd | hd) | hd
      · split at hd
        · exact hmargin d hd
        · cases hd
      · exact hwrite c List.mem_cons_self d hd
      · exact ih false d hd

@[simp] theorem hasSpaceBeforeBreak_cons_cons (a b : Char) (t : Text) :
    hasSpaceBeforeBreak (a :: b :: t)
      = ((a == ' ' && isBreak b) || hasSpaceBeforeBreak (b :: t)) := rfl

@[simp] theorem hasSpaceAfterBreak_cons_cons (a b : Char) (t : Text) :
    hasSpaceAfterBreak (a :: b :: t)
      = ((isBreak a && b == ' ') || hasSpaceAfterBreak (b :: t)) := rfl

@[simp] theorem hasCommentAfterBlank_cons_cons (a b : Char) (t : Text) :
    hasCommentAfterBlank (a :: b :: t)
      = (((isBlank a || isBreak a) && b == '#') || hasCommentAfterBlank (b :: t)) := rfl

/-- A character that is no space in front of a text does not matter. -/
theorem hasSpaceBeforeBreak_cons {c : Char} (hc : c ≠ ' ') (t : Text) :
    hasSpaceBeforeBreak (c :: t) = hasSpaceBeforeBreak t := by
  cases t with
  | nil => rfl
  | cons d t => simp [hc]

/-- A character that is no break in front of a text does not matter. -/
theorem hasSpaceAfterBreak_cons {c : Char} (hc : isBreak c = false) (t : Text) :
    hasSpaceAfterBreak (c :: t) = hasSpaceAfterBreak t := by
  cases t with
  | nil => rfl
  | cons d t => simp [hc]

/-- A character that is no blank in front of a text does not matter. -/
theorem hasCommentAfterBlank_cons {c : Char} (hblank : isBlank c = false)
    (hbreak : isBreak c = false) (t : Text) :
    hasCommentAfterBlank (c :: t) = hasCommentAfterBlank t := by
  cases t with
  | nil => rfl
  | cons d t => simp [hblank, hbreak]

/-! ### What is read so far -/

namespace Folding

variable {f : Folding} {last c : Char}

@[simp] theorem push_join (f : Folding) (c : Char) : f.join.push c = f.push c := rfl

@[simp] theorem join_text_push (f : Folding) (c : Char) :
    (f.push c).join.text = f.join.text ++ [c] := by
  simp [push, join, text]

/-- What is read so far ends in the character `last`, and folding has changed nothing in it. -/
structure EndsIn (f : Folding) (last : Char) : Prop where
  ended_eq : f.ended = isBreak last
  blanks_ne_nil : f.blanks ≠ [] → last = ' '
  break_ne : f.break? ≠ some '\n'
  more_eq_nil : f.ended = false → f.more = []

theorem endsIn_empty (hlast : isBreak last = false) : Folding.empty.EndsIn last :=
  ⟨hlast.symm, fun h => absurd rfl h, nofun, fun _ => rfl⟩

/-- One more character that counts. -/
theorem endsIn_push (f : Folding) (hc : isBreak c = false) : (f.push c).EndsIn c :=
  ⟨hc.symm, fun h => absurd rfl h, nofun, fun _ => rfl⟩

/-- One more space, in the middle of a line. -/
theorem EndsIn.space (h : f.EndsIn last) (hlast : isBreak last = false) :
    (f.space ' ').EndsIn ' ' ∧ (f.space ' ').join.text = f.join.text ++ [' '] := by
  have hended : f.ended = false := h.ended_eq.trans hlast
  have hspace : f.space ' ' = { f with blanks := f.blanks ++ [' '] } := by
    simp [Folding.space, hended, show isBreak ' ' = false from rfl]
  rw [hspace]
  exact ⟨⟨hended, fun _ => rfl, h.break_ne, h.more_eq_nil⟩, by simp [join, text, hended]⟩

/-- One more break, unless it comes right after a space. -/
theorem EndsIn.break (h : f.EndsIn last) (hlast : last ≠ ' ') (hc : isBreak c = true)
    (hne : c ≠ '\n') :
    (f.space c).EndsIn c ∧ (f.space c).join.text = f.join.text ++ [c] := by
  have hblanks : f.blanks = [] := by
    by_cases hnil : f.blanks = []
    · exact hnil
    · exact absurd (h.blanks_ne_nil hnil) hlast
  -- A second break is one of the empty lines, and the first one ends the line.
  cases hended : f.ended with
  | true =>
    have hspace : f.space c = { f with more := f.more ++ [c] } := by
      simp [Folding.space, hc, hended]
    rw [hspace]
    refine ⟨⟨by rw [hended, hc], fun hnil => absurd hblanks hnil, h.break_ne,
      fun hopen => nomatch hended.symm.trans hopen⟩, ?_⟩
    cases hbreak : f.break? with
    | none => simp [join, text, hended, hbreak]
    | some b =>
      have hb : b ≠ '\n' := fun hb => h.break_ne (hb ▸ hbreak)
      simp [join, text, hended, hbreak]
  | false =>
    have hspace : f.space c = { f with blanks := [], break? := some c, ended := true } := by
      simp [Folding.space, hc, hended]
    rw [hspace]
    refine ⟨⟨hc.symm, fun hnil => absurd rfl hnil, fun hbreak => hne (Option.some.inj hbreak),
      nofun⟩, ?_⟩
    simp [join, text, hended, hblanks, h.more_eq_nil hended]

/-- Spaces at the beginning of a line do not count. -/
theorem space_of_ended (hended : f.ended = true) : f.space ' ' = f := by
  simp [Folding.space, hended, show isBreak ' ' = false from rfl]

/-- The text is all that is read so far, unless something comes after it. -/
theorem EndsIn.text_eq (h : f.EndsIn last) (hbreak : isBreak last = false) (hspace : last ≠ ' ') :
    f.text = f.join.text := by
  have hended : f.ended = false := h.ended_eq.trans hbreak
  have hblanks : f.blanks = [] := by
    by_cases hnil : f.blanks = []
    · exact hnil
    · exact absurd (h.blanks_ne_nil hnil) hspace
  simp [join, text, hended, hblanks]

/-- A break or a blank does not change the text before it. -/
@[simp] theorem text_space (f : Folding) (c : Char) : (f.space c).text = f.text := by
  unfold Folding.space
  split
  · split <;> rfl
  · split <;> rfl

end Folding

end WifiNames.Yaml
