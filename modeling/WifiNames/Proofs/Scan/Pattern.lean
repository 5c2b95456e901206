import WifiNames.Proofs.Scan.Run
import WifiNames.Scan.Pattern

namespace WifiNames.Scan

open Pattern Utf8

/-!
# Patterns — what the expressions of the scan match

The expression for a token repeats pieces, asks for a byte escape and repeats pieces again.  At one
place it can match in many ways, by which byte escape is taken and by how far the repetitions go.
Whichever escape is taken, the pieces go on behind it as they did before, so the preferred match ends
where the longest run ends.

* `restsOfStar_of_nil`, `restsOfStar_of_singleton` — a repetition whose body matches in at most one
  way.
* `mem_rests_byteEscapePattern`, `mem_rests_unitPattern` — what a byte escape and a piece leave.
* `rest?_star`, `rest?_tokenPattern` — the repetition takes the longest run, and so does the
  **preferred match**, if that run has a byte escape.
* `findAll_tokenPattern`, `map_start_findAll_byteEscapePattern` — **the matches** in a line are its
  tokens and its byte escapes.
-/

/-! ### Ways to match -/

@[simp] theorem rests_one_nil (holds : Char → Bool) : (one holds).rests [] = [] := rfl

@[simp] theorem rests_one_cons (holds : Char → Bool) (c : Char) (rest : Text) :
    (one holds).rests (c :: rest) = if holds c then [rest] else [] := rfl

@[simp] theorem rests_seq (first second : Pattern) (t : Text) :
    (seq first second).rests t = (first.rests t).flatMap second.rests := rfl

@[simp] theorem rests_alt (preferred other : Pattern) (t : Text) :
    (alt preferred other).rests t = preferred.rests t ++ other.rests t := rfl

/-- A class takes one of its characters. -/
theorem mem_rests_one {holds : Char → Bool} {t rest : Text} :
    rest ∈ (one holds).rests t ↔ ∃ c, holds c = true ∧ t = c :: rest := by
  cases t with
  | nil => simp
  | cons c after =>
    rw [rests_one_cons]
    constructor
    · intro hrest
      split at hrest
      · rename_i hc
        exact ⟨c, hc, by rw [List.mem_singleton.1 hrest]⟩
      · cases hrest
    · rintro ⟨d, hd, heq⟩
      obtain ⟨rfl, rfl⟩ := List.cons.inj heq
      rw [if_pos hd]
      exact List.mem_singleton_self _

/-- One expression and then another leaves what the other one leaves. -/
theorem mem_rests_seq {first second : Pattern} {t rest : Text} :
    rest ∈ (seq first second).rests t ↔
      ∃ middle, middle ∈ first.rests t ∧ rest ∈ second.rests middle :=
  List.mem_flatMap

theorem mem_rests_alt {preferred other : Pattern} {t rest : Text} :
    rest ∈ (alt preferred other).rests t ↔ rest ∈ preferred.rests t ∨ rest ∈ other.rests t :=
  List.mem_append

/-- Where the body does not match, the repetition takes nothing. -/
theorem restsOfStar_of_nil {body : Text → List Text} {t : Text} (h : body t = []) :
    restsOfStar body t = [t] := by
  rw [restsOfStar, h]
  rfl

/-- Where the body matches in one way, the repetition goes on behind it, or takes nothing. -/
theorem restsOfStar_of_singleton {body : Text → List Text} {t rest : Text} (h : body t = [rest])
    (hlt : rest.length < t.length) : restsOfStar body t = restsOfStar body rest ++ [t] := by
  rw [restsOfStar, h, List.flatMap_singleton, dif_pos hlt]

/-! ### Byte escapes -/

/-- The class of the expression is that of the hex digits. -/
theorem hexDigit_eq : hexDigit = one Hex.isDigit := by
  refine congrArg one (funext fun c => ?_)
  rw [Bool.eq_iff_iff, Hex.isDigit_iff]
  simp [or_assoc]

/-- Nothing but a byte escape is matched. -/
theorem mem_rests_byteEscapePattern {t rest : Text} :
    rest ∈ byteEscapePattern.rests t ↔
      ∃ h l, Hex.isDigit h = true ∧ Hex.isDigit l = true ∧ t = '\\' :: 'x' :: h :: l :: rest := by
  simp only [byteEscapePattern, backslash, mem_rests_seq, mem_rests_one, hexDigit_eq,
    beq_iff_eq]
  constructor
  · rintro ⟨_, ⟨_, rfl, rfl⟩, _, ⟨_, rfl, rfl⟩, _, ⟨h, hh, rfl⟩, l, hl, rfl⟩
    exact ⟨h, l, hh, hl, rfl⟩
  · rintro ⟨h, l, hh, hl, rfl⟩
    exact ⟨_, ⟨_, rfl, rfl⟩, _, ⟨_, rfl, rfl⟩, _, ⟨h, hh, rfl⟩, l, hl, rfl⟩

/-- A byte escape is matched in one way. -/
theorem rests_byteEscapePattern {h l : Char} (hh : Hex.isDigit h = true) (hl : Hex.isDigit l = true)
    (rest : Text) : byteEscapePattern.rests ('\\' :: 'x' :: h :: l :: rest) = [rest] := by
  simp [byteEscapePattern, backslash, hexDigit_eq, hh, hl]

/-- Where no byte escape stands, nothing is matched. -/
theorem rests_byteEscapePattern_of_false {t : Text} (ht : startsByteEscape t = false) :
    byteEscapePattern.rests t = [] := by
  rw [List.eq_nil_iff_forall_not_mem]
  intro rest hrest
  obtain ⟨h, l, hh, hl, rfl⟩ := mem_rests_byteEscapePattern.1 hrest
  rw [startsByteEscape, hh, hl] at ht
  cases ht

/-! ### Runs -/

/-- The body of the repetitions takes the piece that reading takes. -/
theorem mem_rests_unitPattern {t rest : Text} :
    rest ∈ unitPattern.rests t ↔ ∃ p : Piece, p.IsUnit ∧ t = p.text ++ rest := by
  simp only [unitPattern, backslash, mem_rests_alt, mem_rests_seq, mem_rests_one, beq_iff_eq,
    Bool.and_eq_true, Bool.not_eq_true', bne_iff_ne]
  constructor
  · rintro (⟨c, hc, rfl⟩ | ⟨_, ⟨_, rfl, rfl⟩, d, hd, rfl⟩)
    · exact ⟨.plain c, hc, rfl⟩
    · exact ⟨.escaped d, hd, rfl⟩
  · rintro ⟨p, hp, rfl⟩
    cases p with
    | plain c => exact Or.inl ⟨c, hp, rfl⟩
    | escaped d => exact Or.inr ⟨_, ⟨_, rfl, rfl⟩, d, hp, rfl⟩

theorem rests_unitPattern_text_append {p : Piece} (hp : p.IsUnit) (rest : Text) :
    unitPattern.rests (p.text ++ rest) = [rest] := by
  cases p with
  | plain c => simp [unitPattern, backslash, Piece.text, hp.1, hp.2]
  | escaped d =>
    have hd : d ≠ '\n' := hp
    simp [unitPattern, backslash, Piece.text, hd]

theorem rests_unitPattern_of_stops {t : Text} (h : Stops t) : unitPattern.rests t = [] := by
  rw [List.eq_nil_iff_forall_not_mem]
  intro rest hrest
  obtain ⟨p, hp, heq⟩ := mem_rests_unitPattern.1 hrest
  exact h p rest hp heq

/-- The ways to repeat pieces, where a piece stands: go on behind it, or take nothing. -/
theorem rests_star_text_append {p : Piece} (hp : p.IsUnit) (rest : Text) :
    (star unitPattern).rests (p.text ++ rest) =
      (star unitPattern).rests rest ++ [p.text ++ rest] := by
  refine restsOfStar_of_singleton (rests_unitPattern_text_append hp rest) ?_
  -- A piece has characters, so that a repetition comes to an end.
  have hpos := p.length_text_pos
  rw [List.length_append]
  omega

theorem rests_star_of_stops {t : Text} (h : Stops t) : (star unitPattern).rests t = [t] :=
  restsOfStar_of_nil (rests_unitPattern_of_stops h)

/-- **The longest run.** To repeat pieces as often as possible is to read them. -/
theorem rest?_star (t : Text) : (star unitPattern).rest? t = some (run t).2 := by
  induction t using induction_on_pieces with
  | stop t h => rw [rest?, rests_star_of_stops h, run_of_stops h]; rfl
  | step p rest hp ih =>
    rw [rest?] at ih ⊢
    rw [rests_star_text_append hp, run_text_append hp, List.head?_append, ih, Option.some_or]

/-! ### Tokens -/

/-- The ways to match from a byte escape on: repeat pieces behind it. -/
theorem rest?_byteEscape_star {t : Text} :
    (seq byteEscapePattern (star unitPattern)).rest? t =
      if startsByteEscape t then some (run t).2 else none := by
  rw [rest?, rests_seq]
  split
  · rename_i ht
    obtain ⟨h, l, rest, rfl, hh, hl⟩ := startsByteEscape_iff.1 ht
    rw [rests_byteEscapePattern hh hl, List.flatMap_singleton, run_byteEscape hh hl]
    exact rest?_star rest
  · rename_i ht
    rw [rests_byteEscapePattern_of_false (Bool.eq_false_iff.2 ht)]
    rfl

/-- **The preferred match.** The expression for a token matches where the longest run has a byte
    escape, and matches that run. -/
theorem rest?_tokenPattern (t : Text) :
    tokenPattern.rest? t = if hasByte (run t).1 then some (run t).2 else none := by
  -- The first repetition alone varies; what comes behind it is settled by the lemma before.
  have hfirst (t : Text) : tokenPattern.rests t =
      ((star unitPattern).rests t).flatMap (seq byteEscapePattern (star unitPattern)).rests := rfl
  induction t using induction_on_pieces with
  | stop t h =>
    have hescape := startsWithByte_run t
    rw [run_of_stops h] at hescape
    rw [rest?, hfirst, rests_star_of_stops h, List.flatMap_singleton, ← rest?,
      rest?_byteEscape_star, ← hescape, run_of_stops h]
    rfl
  | step p rest hp ih =>
    have hescape := startsWithByte_run (p.text ++ rest)
    have hrest := rest?_byteEscape_star (t := p.text ++ rest)
    rw [rest?] at ih hrest ⊢
    rw [run_text_append hp] at hescape hrest ⊢
    rw [hfirst, rests_star_text_append hp, List.flatMap_append, ← hfirst, List.head?_append, ih,
      List.flatMap_singleton, hrest, ← hescape, hasByte]
    -- The last escape among the pieces counts; the first piece begins it only if there is none behind.
    cases hasByte (run rest).1 <;> simp

/-! ### Finding -/

/-- Where nothing is matched, the search goes on behind the next character. -/
theorem findAllFrom_of_none {p : Pattern} {c : Char} {rest : Text} (start : Nat)
    (h : p.rest? (c :: rest) = none) :
    findAllFrom p start (c :: rest) = findAllFrom p (start + c.utf8Size) rest := by
  rw [findAllFrom, h]

/-- Where the preferred match takes something, this is found, and the search goes on behind it. -/
theorem findAllFrom_of_some {p : Pattern} {taken after : Text} (start : Nat)
    (h : p.rest? (taken ++ after) = some after) (hne : taken ≠ []) :
    findAllFrom p start (taken ++ after) =
      ⟨start, taken⟩ :: findAllFrom p (start + length taken) after := by
  obtain ⟨c, taken, rfl⟩ := List.exists_cons_of_ne_nil hne
  have htaken : ((c :: taken) ++ after).take (((c :: taken) ++ after).length - after.length) =
      c :: taken := by
    rw [List.length_append, Nat.add_sub_cancel, List.take_left]
  have hlt : after.length < ((c :: taken) ++ after).length := by
    rw [List.length_append, List.length_cons]
    omega
  rw [List.cons_append] at h htaken hlt ⊢
  rw [findAllFrom, h]
  simp only [dif_pos hlt, htaken]
  rfl

theorem findAllFrom_tokenPattern (start : Nat) (t : Text) :
    findAllFrom tokenPattern start t = tokensFrom start t := by
  fun_induction tokensFrom start t with
  | case1 => rw [findAllFrom]
  | case2 start c rest hbyte token ih =>
    have hmatch : tokenPattern.rest? (textOf (run (c :: rest)).1 ++ (run (c :: rest)).2) =
        some (run (c :: rest)).2 := by
      rw [textOf_run, rest?_tokenPattern, if_pos hbyte]
    have hfound := findAllFrom_of_some start hmatch (textOf_ne_nil_of_hasByte hbyte)
    rw [textOf_run] at hfound
    rw [hfound]
    exact congrArg (token :: ·) ih
  | case3 start c rest hbyte ih =>
    have hmatch : tokenPattern.rest? (c :: rest) = none := by
      rw [rest?_tokenPattern, if_neg hbyte]
    rw [findAllFrom_of_none start hmatch, ih]

/-- **The matches of the expression for a token** are the tokens. -/
theorem findAll_tokenPattern (line : Text) : findAll tokenPattern line = tokens line := by
  rw [findAll, findAllFrom_tokenPattern, tokens_eq]

/-- No byte escape begins with anything but a backslash. -/
theorem byteEscapesFrom_cons_of_ne {c : Char} (hc : c ≠ '\\') (start : Nat) (rest : Text) :
    byteEscapesFrom start (c :: rest) = byteEscapesFrom (start + c.utf8Size) rest := by
  have hnone : startsByteEscape (c :: rest) = false := by
    rw [Bool.eq_false_iff, Ne, startsByteEscape_iff]
    rintro ⟨_, _, _, heq, -⟩
    exact hc (List.cons.inj heq).1
  rw [byteEscapesFrom, if_neg (Bool.eq_false_iff.1 hnone)]

/-- No byte escape begins within another one. -/
theorem byteEscapesFrom_byteEscape {h l : Char} (hh : Hex.isDigit h = true)
    (hl : Hex.isDigit l = true) (start : Nat) (rest : Text) :
    byteEscapesFrom start ('\\' :: 'x' :: h :: l :: rest) =
      start :: byteEscapesFrom (start + length ['\\', 'x', h, l]) rest := by
  have hstarts : startsByteEscape ('\\' :: 'x' :: h :: l :: rest) = true :=
    startsByteEscape_iff.2 ⟨h, l, rest, rfl, hh, hl⟩
  -- None of the three characters behind the backslash is a backslash.
  rw [byteEscapesFrom, if_pos hstarts, byteEscapesFrom_cons_of_ne (by decide),
    byteEscapesFrom_cons_of_ne (Hex.isBlank_of_isDigit hh).2,
    byteEscapesFrom_cons_of_ne (Hex.isBlank_of_isDigit hl).2]
  simp only [length, Nat.add_assoc, Nat.add_zero]

theorem map_start_findAllFrom_byteEscapePattern (start : Nat) (t : Text) :
    (findAllFrom byteEscapePattern start t).map Token.start = byteEscapesFrom start t := by
  fun_induction findAllFrom byteEscapePattern start t with
  | case1 => rfl
  | case2 start c rest hmatch ih =>
    have hnone : startsByteEscape (c :: rest) ≠ true := by
      intro hstarts
      obtain ⟨h, l, after, heq, hh, hl⟩ := startsByteEscape_iff.1 hstarts
      rw [heq, rest?, rests_byteEscapePattern hh hl] at hmatch
      cases hmatch
    rw [ih, byteEscapesFrom, if_neg hnone]
  | case3 start c rest after hmatch hlt token ih =>
    obtain ⟨h, l, hh, hl, heq⟩ := mem_rests_byteEscapePattern.1 (List.mem_of_head? hmatch)
    have hfour : (c :: rest).length - after.length = 4 := by
      rw [heq]
      simp only [List.length_cons]
      omega
    have htext : token.text = ['\\', 'x', h, l] := by
      show (c :: rest).take ((c :: rest).length - after.length) = _
      rw [hfour, heq]
      rfl
    rw [heq, byteEscapesFrom_byteEscape hh hl, ← htext]
    exact congrArg (start :: ·) ih
  -- The search would stop only at an empty match, and a byte escape has four characters.
  | case4 start c rest after hmatch hlt =>
    obtain ⟨h, l, -, -, heq⟩ := mem_rests_byteEscapePattern.1 (List.mem_of_head? hmatch)
    refine absurd ?_ hlt
    rw [heq]
    simp only [List.length_cons]
    omega

/-- **The matches of the expression for a byte escape** are the byte escapes. -/
theorem map_start_findAll_byteEscapePattern (line : Text) :
    (findAll byteEscapePattern line).map Token.start = byteEscapes line :=
  map_start_findAllFrom_byteEscapePattern 0 line

end WifiNames.Scan
