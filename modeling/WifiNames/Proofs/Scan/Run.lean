import WifiNames.Scan.Token

namespace WifiNames

/-!
# Runs — the pieces that a text begins with

A text begins with many runs of pieces, one of which is the longest.  It is found by reading piece by
piece, since the first character of a piece tells where the piece ends.

* `Hex.isDigit_iff` — the hex digits by their ranges.
* `startsByteEscape_iff`, `hasByteEscape_iff` — where a byte escape stands in a text.
* `Piece.IsUnit`, `IsRun`, `IsLongestRun` — the pieces that a run may have, the runs that a text begins
  with, and the longest of them.
* `run_append` — reading passes over whole pieces.
* `induction_on_pieces` — induction along the pieces that a text begins with.
* `isLongestRun_iff` — **what is read is the longest run.**
* `HoldsByte`, `hasByte_iff` — the pieces of a byte escape among pieces.
* `run_byteEscape`, `run_behind_backslash` — how a byte escape is read, and how without its backslash.
-/

/-! ### Hex digits -/

/-- The hex digits are three ranges of characters. -/
theorem Hex.isDigit_iff {c : Char} :
    Hex.isDigit c = true ↔
      ('0' ≤ c ∧ c ≤ '9') ∨ ('a' ≤ c ∧ c ≤ 'f') ∨ ('A' ≤ c ∧ c ≤ 'F') := by
  unfold Hex.isDigit Hex.value?
  split
  · simp [*]
  split
  · simp [*]
  split
  · simp [*]
  · simp [*]

/-- A hex digit is an ASCII character between `0` and `f`, but no backslash. -/
theorem Hex.toNat_of_isDigit {c : Char} (hc : Hex.isDigit c = true) :
    0x30 ≤ c.toNat ∧ c.toNat ≤ 0x66 ∧ c.toNat ≠ 0x5C := by
  rcases Hex.isDigit_iff.1 hc with ⟨hlo, hhi⟩ | ⟨hlo, hhi⟩ | ⟨hlo, hhi⟩ <;>
  · have hlo' := UInt32.le_iff_toNat_le.1 hlo
    have hhi' := UInt32.le_iff_toNat_le.1 hhi
    simp only [Char.reduceVal, UInt32.reduceToNat, Char.toNat] at hlo' hhi' ⊢
    omega

/-- A hex digit is neither blank nor a backslash. -/
theorem Hex.isBlank_of_isDigit {c : Char} (hc : Hex.isDigit c = true) :
    Text.isBlank c = false ∧ c ≠ '\\' := by
  obtain ⟨hlo, hhi, hne⟩ := Hex.toNat_of_isDigit hc
  refine ⟨?_, ?_⟩
  · simp only [Text.isBlank, Bool.or_eq_false_iff, Bool.and_eq_false_iff, decide_eq_false_iff_not,
      beq_eq_false_iff_ne]
    omega
  · rintro rfl
    exact hne rfl

/-- A hex digit has one byte. -/
theorem Hex.utf8Size_of_isDigit {c : Char} (hc : Hex.isDigit c = true) : c.utf8Size = 1 := by
  obtain ⟨-, hhi, -⟩ := Hex.toNat_of_isDigit hc
  rw [Char.utf8Size_eq_one_iff, UInt32.le_iff_toNat_le]
  exact Nat.le_trans hhi (by decide)

namespace Scan

/-! ### Byte escapes -/

theorem startsByteEscape_iff {t : Text} :
    startsByteEscape t = true ↔ ∃ h l rest, t = '\\' :: 'x' :: h :: l :: rest ∧
      Hex.isDigit h = true ∧ Hex.isDigit l = true := by
  constructor
  · intro ht
    unfold startsByteEscape at ht
    split at ht
    · rename_i h l rest
      exact ⟨h, l, rest, rfl, Bool.and_eq_true_iff.1 ht⟩
    · cases ht
  · rintro ⟨h, l, rest, rfl, hh, hl⟩
    rw [startsByteEscape, hh, hl, Bool.and_self]

/-- **Byte escapes.** A text has one exactly if it goes on with one from some place. -/
theorem hasByteEscape_iff {t : Text} :
    hasByteEscape t = true ↔ ∃ before rest, t = before ++ rest ∧ startsByteEscape rest = true := by
  induction t with
  | nil =>
    simp only [hasByteEscape, Bool.false_eq_true, false_iff]
    rintro ⟨before, rest, happend, hrest⟩
    rw [(List.append_eq_nil_iff.1 happend.symm).2] at hrest
    cases hrest
  | cons c t ih =>
    rw [hasByteEscape, Bool.or_eq_true, ih]
    constructor
    · rintro (hfirst | ⟨before, rest, rfl, hrest⟩)
      · exact ⟨[], c :: t, rfl, hfirst⟩
      · exact ⟨c :: before, rest, rfl, hrest⟩
    · rintro ⟨before, rest, happend, hrest⟩
      -- The byte escape begins with the first character, or in the text behind that.
      cases before with
      | nil =>
        obtain rfl : c :: t = rest := happend
        exact Or.inl hrest
      | cons d before =>
        obtain ⟨-, rfl⟩ := List.cons.inj happend
        exact Or.inr ⟨before, rest, rfl, hrest⟩

/-! ### Runs of a text -/

/-- Whether a piece may stand in a run. -/
def Piece.IsUnit : Piece → Prop
  | plain c => Text.isBlank c = false ∧ c ≠ '\\'
  | escaped c => c ≠ '\n'

/-- Pieces that a text begins with. -/
structure IsRun (pieces : List Piece) (t : Text) : Prop where
  isUnit : ∀ p ∈ pieces, p.IsUnit
  isPrefix : textOf pieces <+: t

/-- The longest run of a text. -/
structure IsLongestRun (pieces : List Piece) (t : Text) : Prop extends IsRun pieces t where
  longest : ∀ others, IsRun others t → (textOf others).length ≤ (textOf pieces).length

theorem Piece.length_text_pos (p : Piece) : 0 < p.text.length := by
  cases p <;> exact Nat.succ_pos _

@[simp] theorem textOf_nil : textOf [] = [] := rfl

@[simp] theorem textOf_plain (c : Char) (pieces : List Piece) :
    textOf (.plain c :: pieces) = c :: textOf pieces := rfl

@[simp] theorem textOf_escaped (c : Char) (pieces : List Piece) :
    textOf (.escaped c :: pieces) = '\\' :: c :: textOf pieces := rfl

theorem textOf_cons (p : Piece) (pieces : List Piece) :
    textOf (p :: pieces) = p.text ++ textOf pieces :=
  List.flatMap_cons

@[simp] theorem textOf_append (pieces others : List Piece) :
    textOf (pieces ++ others) = textOf pieces ++ textOf others :=
  List.flatMap_append

/-- Reading takes a plain character. -/
theorem run_plain {c : Char} (hc : (Piece.plain c).IsUnit) (rest : Text) :
    run (c :: rest) = (.plain c :: (run rest).1, (run rest).2) := by
  rw [run.eq_def]
  simp only [hc.1, hc.2, if_false, Bool.false_eq_true]

/-- Reading takes a backslash with what it escapes. -/
theorem run_escaped {d : Char} (hd : (Piece.escaped d).IsUnit) (rest : Text) :
    run ('\\' :: d :: rest) = (.escaped d :: (run rest).1, (run rest).2) := by
  rw [run, if_pos rfl, if_neg hd]

/-- Reading takes any piece that may stand in a run. -/
theorem run_text_append {p : Piece} (hp : p.IsUnit) (rest : Text) :
    run (p.text ++ rest) = (p :: (run rest).1, (run rest).2) := by
  cases p with
  | plain c => exact run_plain hp rest
  | escaped c => exact run_escaped hp rest

/-- **Reading passes over whole pieces.** -/
theorem run_append {pieces : List Piece} (h : ∀ p ∈ pieces, p.IsUnit) (rest : Text) :
    run (textOf pieces ++ rest) = (pieces ++ (run rest).1, (run rest).2) := by
  induction pieces with
  | nil => rfl
  | cons p pieces ih =>
    obtain ⟨hp, hpieces⟩ := List.forall_mem_cons.1 h
    rw [textOf_cons, List.append_assoc, run_text_append hp, ih hpieces]
    rfl

/-- A text of whole pieces is read to its end. -/
theorem run_textOf {pieces : List Piece} (h : ∀ p ∈ pieces, p.IsUnit) :
    run (textOf pieces) = (pieces, []) := by
  have happend := run_append h []
  rwa [List.append_nil, run, List.append_nil] at happend

/-- Where a text that begins with an escape is read to its end, so is what stands behind that. -/
theorem snd_run_of_escaped {d : Char} {rest : Text} (h : (run ('\\' :: d :: rest)).2 = []) :
    (run rest).2 = [] := by
  rw [run, if_pos rfl] at h
  split at h
  · cases h
  · exact h

/-- Where a text that begins with no backslash is read to its end, so is what stands behind its first
    character. -/
theorem snd_run_of_plain {c : Char} {rest : Text} (hc : c ≠ '\\') (h : (run (c :: rest)).2 = []) :
    (run rest).2 = [] := by
  rw [run.eq_def] at h
  simp only [hc, if_false] at h
  split at h
  · cases h
  · exact h

/-- Whether a text begins with no piece that may stand in a run. -/
def Stops (t : Text) : Prop :=
  ∀ (p : Piece) (rest : Text), p.IsUnit → t ≠ p.text ++ rest

/-- **Induction along pieces.** A text begins with a piece, or with none. -/
theorem induction_on_pieces {motive : Text → Prop} (stop : ∀ t, Stops t → motive t)
    (step : ∀ (p : Piece) (rest : Text), p.IsUnit → motive rest → motive (p.text ++ rest))
    (t : Text) : motive t := by
  -- Along the reader, whose stopping cases are the ways in which no piece can begin.
  induction t using run.induct with
  | case1 =>
    refine stop _ fun p rest _ heq => ?_
    cases p <;> cases heq
  | case2 =>
    refine stop _ fun p rest hp heq => ?_
    cases p with
    | plain c => exact hp.2 (List.cons.inj heq).1.symm
    | escaped c => cases (List.cons.inj heq).2
  | case3 after =>
    refine stop _ fun p rest hp heq => ?_
    cases p with
    | plain c => exact hp.2 (List.cons.inj heq).1.symm
    | escaped c => exact hp (List.cons.inj (List.cons.inj heq).2).1.symm
  | case4 d rest hd ih => exact step (.escaped d) rest hd ih
  | case5 c after hc hblank =>
    refine stop _ fun p rest hp heq => ?_
    cases p with
    | plain d =>
      obtain ⟨rfl, -⟩ := List.cons.inj heq
      rw [hp.1] at hblank
      cases hblank
    | escaped d => exact hc (List.cons.inj heq).1
  | case6 c rest hc hblank ih => exact step (.plain c) rest ⟨Bool.eq_false_iff.2 hblank, hc⟩ ih

/-- Where a text begins with no piece, nothing is read. -/
theorem run_of_stops {t : Text} (h : Stops t) : run t = ([], t) := by
  fun_cases run t with
  | case1 | case2 | case3 | case5 => rfl
  | case4 d rest hd => exact absurd rfl (h (.escaped d) rest hd)
  | case6 c rest hc hblank =>
    exact absurd rfl (h (.plain c) rest ⟨Bool.eq_false_iff.2 hblank, hc⟩)

/-- What is read is a run. -/
theorem isRun_run (t : Text) : IsRun (run t).1 t where
  isUnit := by
    induction t using induction_on_pieces with
    | stop t h => simp [run_of_stops h]
    | step p rest hp ih =>
      rw [run_text_append hp]
      exact List.forall_mem_cons.2 ⟨hp, ih⟩
  isPrefix := ⟨(run t).2, textOf_run t⟩

/-- A run is the beginning of what is read. -/
theorem IsRun.isPrefix_run {pieces : List Piece} {t : Text} (h : IsRun pieces t) :
    pieces <+: (run t).1 := by
  obtain ⟨rest, rfl⟩ := h.isPrefix
  -- Reading passes over its pieces and goes on behind them.
  rw [run_append h.isUnit]
  exact List.prefix_append pieces _

/-- A run is as long as its beginnings only if it is no longer than they are. -/
theorem eq_of_isPrefix_of_length_textOf_le {pieces others : List Piece} (h : pieces <+: others)
    (hle : (textOf others).length ≤ (textOf pieces).length) : pieces = others := by
  obtain ⟨more, rfl⟩ := h
  rw [textOf_append, List.length_append] at hle
  -- No character is left for more pieces, and every piece has one.
  have hmore : textOf more = [] := List.length_eq_zero_iff.1 (by omega)
  cases more with
  | nil => rw [List.append_nil]
  | cons p more => cases p <;> cases hmore

/-- **The longest run** of a text is the one that is read. -/
theorem isLongestRun_iff {pieces : List Piece} {t : Text} :
    IsLongestRun pieces t ↔ pieces = (run t).1 := by
  constructor
  · intro h
    exact eq_of_isPrefix_of_length_textOf_le h.isPrefix_run (h.longest _ (isRun_run t))
  · rintro rfl
    refine { isRun_run t with longest := ?_ }
    -- Any other run is the beginning of what is read, so it is no longer.
    intro others hothers
    obtain ⟨more, hmore⟩ := hothers.isPrefix_run
    rw [← hmore, textOf_append, List.length_append]
    omega

/-! ### Byte escapes in runs -/

theorem startsWithByte_iff {pieces : List Piece} :
    startsWithByte pieces = true ↔ ∃ h l rest,
      pieces = .escaped 'x' :: .plain h :: .plain l :: rest ∧
        Hex.isDigit h = true ∧ Hex.isDigit l = true := by
  constructor
  · intro hpieces
    unfold startsWithByte at hpieces
    split at hpieces
    · rename_i h l rest
      exact ⟨h, l, rest, rfl, Bool.and_eq_true_iff.1 hpieces⟩
    · cases hpieces
  · rintro ⟨h, l, rest, rfl, hh, hl⟩
    rw [startsWithByte, hh, hl, Bool.and_self]

/-- The pieces of a byte escape stand next to each other among pieces. -/
def HoldsByte (pieces : List Piece) : Prop :=
  ∃ before h l after, pieces = before ++ .escaped 'x' :: .plain h :: .plain l :: after ∧
    Hex.isDigit h = true ∧ Hex.isDigit l = true

/-- The pieces of a byte escape are found among pieces exactly if these hold them. -/
theorem hasByte_iff {pieces : List Piece} : hasByte pieces = true ↔ HoldsByte pieces := by
  induction pieces with
  | nil => simp [hasByte, HoldsByte]
  | cons p pieces ih =>
    rw [hasByte, Bool.or_eq_true, ih, startsWithByte_iff]
    constructor
    · rintro (⟨h, l, rest, heq, hdigits⟩ | ⟨before, h, l, after, rfl, hdigits⟩)
      · exact ⟨[], h, l, rest, heq, hdigits⟩
      · exact ⟨p :: before, h, l, after, rfl, hdigits⟩
    · rintro ⟨before, h, l, after, heq, hdigits⟩
      cases before with
      | nil => exact Or.inl ⟨h, l, after, heq, hdigits⟩
      | cons q before =>
        obtain ⟨-, rfl⟩ := List.cons.inj heq
        exact Or.inr ⟨before, h, l, after, rfl, hdigits⟩

/-- Pieces that begin with those of a byte escape hold them. -/
theorem hasByte_of_startsWithByte {pieces : List Piece} (hpieces : startsWithByte pieces = true) :
    hasByte pieces = true := by
  obtain ⟨h, l, rest, rfl, hdigits⟩ := startsWithByte_iff.1 hpieces
  exact hasByte_iff.2 ⟨[], h, l, rest, rfl, hdigits⟩

/-- Two hex digits are read as characters. -/
theorem run_digits {h l : Char} (hh : Hex.isDigit h = true) (hl : Hex.isDigit l = true)
    (rest : Text) : run (h :: l :: rest) = (.plain h :: .plain l :: (run rest).1, (run rest).2) := by
  rw [run_plain (Hex.isBlank_of_isDigit hh), run_plain (Hex.isBlank_of_isDigit hl)]

/-- A text that begins with a byte escape is read as its pieces. -/
theorem run_byteEscape {h l : Char} (hh : Hex.isDigit h = true) (hl : Hex.isDigit l = true)
    (rest : Text) :
    run ('\\' :: 'x' :: h :: l :: rest) =
      (.escaped 'x' :: .plain h :: .plain l :: (run rest).1, (run rest).2) := by
  have hx : (Piece.escaped 'x').IsUnit := by
    show 'x' ≠ '\n'
    decide
  rw [run_escaped hx, run_digits hh hl]

/-- What stands behind the backslash of a byte escape is read as three characters. -/
theorem run_behind_backslash {h l : Char} (hh : Hex.isDigit h = true) (hl : Hex.isDigit l = true)
    (rest : Text) :
    run ('x' :: h :: l :: rest) =
      (.plain 'x' :: .plain h :: .plain l :: (run rest).1, (run rest).2) := by
  have hx : (Piece.plain 'x').IsUnit := by
    show Text.isBlank 'x' = false ∧ 'x' ≠ '\\'
    decide
  rw [run_plain hx, run_digits hh hl]

/-- What is read begins with a byte escape exactly if the text does. -/
theorem startsWithByte_run (t : Text) : startsWithByte (run t).1 = startsByteEscape t := by
  rw [Bool.eq_iff_iff, startsWithByte_iff, startsByteEscape_iff]
  constructor
  · rintro ⟨h, l, more, hrun, hh, hl⟩
    have hread := textOf_run t
    rw [hrun] at hread
    exact ⟨h, l, textOf more ++ (run t).2, hread.symm, hh, hl⟩
  · rintro ⟨h, l, rest, rfl, hh, hl⟩
    rw [run_byteEscape hh hl]
    exact ⟨h, l, _, rfl, hh, hl⟩

end Scan

end WifiNames
