import WifiNames.Proofs.Yaml.Folding
import WifiNames.Proofs.Yaml.Line
import WifiNames.Yaml.Token.Plain

namespace WifiNames.Yaml

/-!
# Plain scalars — reading what was written

A plain scalar without breaks goes on over all characters that a text may have that is written
plain.  It ends before the colon of a key, and at the end of the line of a value.

* `scanPlain_append` — reading on in a plain text.
* `IsPlain` — a text in a line that nothing in it ends.
* `scanPlain_name`, `IsPlain.scanPlain_line` — **a name and a plain text read back.**
-/

variable {f : Folding} {last c : Char} {t u name next : Text} {m : Mark}

@[simp] theorem hasColonBeforeBlank_cons (c : Char) (t : Text) :
    hasColonBeforeBlank (c :: t) = ((c == ':' && startsBlank t) || hasColonBeforeBlank t) := rfl

/-- What comes after a text does not matter to what it begins with, if it is not empty. -/
theorem startsBlank_append (h : startsBlank t = false) (u : Text) :
    startsBlank (t ++ u) = false := by
  cases t with
  | nil => cases h
  | cons c t => exact h

/-- Reading on in a plain text, after the character `last`. -/
theorem scanPlain_append (indent : Nat) (u : Text) (t : Text) :
    ∀ (f : Folding) (last : Char) (m : Mark), f.EndsIn last → isBreak last = false →
      (∀ c ∈ t, isPrintable c = true ∧ isBreak c = false) →
      hasColonBeforeBlank t = false → hasCommentAfterBlank (last :: t) = false →
      indent ≤ m.column + 1 → (isBlank last = true → indent ≤ m.column ∧ 0 < m.column) →
      ∃ f', f'.EndsIn (t.getLast?.getD last) ∧ f'.join.text = f.join.text ++ t ∧
        scanPlain false indent f (isBlank last) (t ++ u) m
          = scanPlain false indent f' (isBlank (t.getLast?.getD last)) u (m.passAll t) := by
  induction t with
  | nil =>
    intro f last m hf _ _ _ _ _ _
    exact ⟨f, hf, (List.append_nil _).symm, rfl⟩
  | cons c t ih =>
    intro f last m hf hlast hchars hcolon hcomment hindent hspaced
    obtain ⟨hprint, hbreak⟩ := hchars c List.mem_cons_self
    have hchars' := fun d hd => hchars d (List.mem_cons_of_mem c hd)
    rw [hasColonBeforeBlank_cons, Bool.or_eq_false_iff] at hcolon
    rw [hasCommentAfterBlank_cons_cons, Bool.or_eq_false_iff, hlast, Bool.or_false] at hcomment
    rw [List.getLast?_cons, Option.getD_some, List.cons_append]
    have hnext : indent ≤ (m.pass c).column + 1 ∧
        (isBlank c = true → indent ≤ (m.pass c).column ∧ 0 < (m.pass c).column) := by
      simp only [Mark.pass]
      omega
    -- A space waits for the next character, and any other character is text.
    by_cases hblank : isBlank c = true
    · obtain rfl := (isBlank_iff hprint).1 hblank
      obtain ⟨hf', htext⟩ := hf.space hlast
      obtain ⟨f', hf', htext', hread⟩ := ih (f.space ' ') ' ' (m.pass ' ') hf' hbreak hchars'
        hcolon.2 hcomment.2 hnext.1 hnext.2
      refine ⟨f', hf', by rw [htext', htext, List.append_assoc, List.singleton_append], ?_⟩
      rw [scanPlain]
      simp only [hbreak, hblank, Bool.false_eq_true, if_false, if_true]
      exact hread
    · -- Neither a number sign after a blank nor a colon before one ends the scalar here.
      rw [Bool.not_eq_true] at hblank
      obtain ⟨f', hf', htext', hread⟩ := ih (f.push c) c (m.pass c) (f.endsIn_push hbreak) hbreak
        hchars' hcolon.2 hcomment.2 hnext.1 hnext.2
      refine ⟨f', hf', ?_, ?_⟩
      · rw [htext', Folding.join_text_push, List.append_assoc, List.singleton_append]
      · have hends : (c == ':' && startsBlank (t ++ u)) = false := by
          cases hc : c == ':' with
          | false => rfl
          | true =>
            rw [hc, Bool.true_and] at hcolon
            rw [startsBlank_append hcolon.1]
            rfl
        have hstop : (isBlank last && ((!false && decide (m.column < indent)) || c == '#'
            || (m.column == 0 && startsDocument (c :: (t ++ u))))) = false := by
          cases hspace : isBlank last with
          | false => rfl
          | true =>
            rw [hspace, Bool.true_and] at hcomment
            have := hspaced hspace
            simp [hcomment.1, Nat.not_lt.2 this.1, Nat.ne_of_gt this.2]
        rw [hblank] at hread
        rw [scanPlain]
        simp only [hbreak, hblank, hstop, hends, Bool.false_eq_true, if_false, Bool.false_and,
          Bool.or_false]
        exact hread

/-- A text in a line that nothing in it ends. -/
structure IsPlain (t : Text) : Prop where
  chars : ∀ c ∈ t, isPrintable c = true ∧ isBreak c = false
  hasColonBeforeBlank_eq : hasColonBeforeBlank t = false
  hasCommentAfterBlank_eq : hasCommentAfterBlank t = false
  ne_space : ∀ c ∈ t.getLast?, c ≠ ' '

/-- A plain text is read as it is, whatever comes after it. -/
theorem IsPlain.scanPlain (h : IsPlain t) {indent : Nat} (hindent : indent ≤ m.column + 1)
    (u : Text) :
    ∃ f spaced, f.text = t ∧ f.ended = false ∧
      scanPlain false indent .empty false (t ++ u) m
        = Yaml.scanPlain false indent f spaced u (m.passAll t) := by
  -- A colon counts as the character that came last.
  obtain ⟨f, hf, htext, hread⟩ := scanPlain_append indent u t .empty ':' m
    (Folding.endsIn_empty rfl) rfl h.chars h.hasColonBeforeBlank_eq
    ((hasCommentAfterBlank_cons rfl rfl t).trans h.hasCommentAfterBlank_eq) hindent nofun
  have hlast : isBreak (t.getLast?.getD ':') = false ∧ t.getLast?.getD ':' ≠ ' ' := by
    cases hend : t.getLast? with
    | none => exact ⟨rfl, by decide⟩
    | some c => exact ⟨(h.chars c (List.mem_of_getLast? hend)).2, h.ne_space c hend⟩
  exact ⟨f, _, (hf.text_eq hlast.1 hlast.2).trans htext, hf.ended_eq.trans hlast.1, hread⟩

/-! ### Names -/

/-- Names are plain. -/
theorem isPlain_of_isNameChar (hname : ∀ c ∈ name, isNameChar c = true) : IsPlain name where
  chars c hc := ⟨isPrintable_of_isNameChar (hname c hc), isBreak_of_isNameChar (hname c hc)⟩
  hasColonBeforeBlank_eq := by
    induction name with
    | nil => rfl
    | cons c name ih =>
      have hc := ne_of_isNameChar (d := ':') (hname c List.mem_cons_self) rfl
      rw [hasColonBeforeBlank_cons, ih fun d hd => hname d (List.mem_cons_of_mem c hd)]
      simp [hc]
  hasCommentAfterBlank_eq := by
    induction name with
    | nil => rfl
    | cons c name ih =>
      have hc := hname c List.mem_cons_self
      rw [hasCommentAfterBlank_cons (isBlank_of_isNameChar hc) (isBreak_of_isNameChar hc)]
      exact ih fun d hd => hname d (List.mem_cons_of_mem c hd)
  ne_space c hc := ne_of_isNameChar (hname c (List.mem_of_getLast? hc)) rfl

/-- A name is read up to its colon. -/
theorem scanPlain_name (hname : ∀ c ∈ name, isNameChar c = true) (hu : startsBlank u = true)
    {indent : Nat} (hindent : indent ≤ m.column + 1) :
    ∃ f, f.text = name ∧ f.ended = false ∧
      scanPlain false indent .empty false (name ++ ':' :: u) m
        = .ok (f, ':' :: u, m.passAll name) := by
  obtain ⟨f, spaced, htext, hended, hread⟩ :=
    (isPlain_of_isNameChar hname).scanPlain hindent (':' :: u)
  refine ⟨f, htext, hended, ?_⟩
  rw [hread, scanPlain]
  simp [show isBreak ':' = false from rfl, show isBlank ':' = false from rfl, hu]

/-! ### Values -/

/-- After a plain text the spaces before the next line are passed over. -/
theorem scanPlain_replicate (hf : f.ended = true) (hu : StartsName u) (indent k : Nat) :
    ∀ m : Mark, m.column + k < indent →
      scanPlain false indent f true (List.replicate k ' ' ++ u) m = .ok (f, u, m.skip k) := by
  induction k with
  | zero =>
    intro m hm
    cases u with
    | nil => rfl
    | cons c u =>
      -- A name that is indented less ends the scalar.
      have hc := hu c rfl
      rw [List.replicate_zero, List.nil_append, scanPlain]
      simp [isBreak_of_isNameChar hc, isBlank_of_isNameChar hc, show m.column < indent by omega,
        Mark.skip]
  | succ k ih =>
    intro m hm
    rw [List.replicate_succ, List.cons_append, scanPlain]
    simp only [show isBreak ' ' = false from rfl, show isBlank ' ' = true from rfl,
      show (' ' == '\t') = false from rfl, Bool.false_eq_true, if_false, if_true, Bool.false_and,
      Folding.space_of_ended hf]
    rw [ih (m.pass ' ') (by simp only [Mark.pass]; omega)]
    simp [Mark.pass, Mark.skip, show ' '.utf8Size = 1 from rfl]
    omega

theorem isPlain_of_allowsPlain (h : allowsPlain t = true) : IsPlain t := by
  simp only [allowsPlain, Bool.not_eq_true', Bool.or_eq_false_iff] at h
  obtain ⟨⟨⟨⟨⟨houter, hbreak⟩, hspecial⟩, -⟩, hcolon⟩, hcomment⟩ := h
  refine ⟨?_, hcolon, hcomment, ?_⟩
  · intro c hc
    have hprint := List.any_eq_false.1 hspecial c hc
    exact ⟨by simpa using hprint, by simpa using List.any_eq_false.1 hbreak c hc⟩
  · rintro c hc rfl
    simp only [hasOuterSpace, Bool.or_eq_false_iff] at houter
    rw [Option.mem_def] at hc
    simp [hc] at houter

/-- A plain text is read up to its end, with the spaces before the next line. -/
theorem IsPlain.scanPlain_line (h : IsPlain t) (hnext : IsLine next) (hm : 2 ≤ m.column) :
    ∃ f line, f.text = t ∧ f.ended = true ∧
      Yaml.scanPlain false 3 .empty false (t ++ '\n' :: next) m
        = .ok (f, content next, ⟨line, indentation next, indentation next⟩) := by
  have hindent : 3 ≤ m.column + 1 := by omega
  obtain ⟨f, spaced, htext, hopen, hread⟩ := h.scanPlain hindent ('\n' :: next)
  have hended : (f.space '\n').ended = true := by
    simp [Folding.space, show isBreak '\n' = true from rfl, hopen]
  -- The next line is indented less than the value, which ends the scalar.
  have hskip := scanPlain_replicate hended hnext.startsName 3 (indentation next)
    (m.passAll t).newLine (by have := hnext.indentation_le; simp only [Mark.newLine]; omega)
  rw [replicate_append_content] at hskip
  refine ⟨f.space '\n', (m.passAll t).line + 1, by rw [Folding.text_space, htext], hended, ?_⟩
  rw [hread, Yaml.scanPlain, if_pos (show isBreak '\n' = true from rfl), hskip]
  simp [Mark.newLine, Mark.skip]

end WifiNames.Yaml
