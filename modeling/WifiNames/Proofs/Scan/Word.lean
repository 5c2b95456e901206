import Mathlib.Data.List.Basic
import WifiNames.Proofs.Escape
import WifiNames.Proofs.Scan.Coverage
import WifiNames.Shape

namespace WifiNames.Scan

open Utf8

/-!
# Words — where a token starts in a word

A word reads from its start as characters and escapes.  Its token is the whole word, if one of these
escapes is a byte escape.  If none is, then the search goes on behind the first backslash of an
escape, and reads escaped backslashes one character too late: a backslash that is escaped introduces
what comes next.

* `IsWord` — the pieces of a word.
* `IsMisread` — escaped backslashes in front of an `x` and two hex digits.
* `exists_of_hasByte_run` — reading too late finds a byte escape only behind escaped backslashes.
* `isFoundLate_tokensFrom` — so there is no other way for a token to start within a piece.
* `IsMisread.decode_eq`, `decode_misread` — what a word and such a token stand for.
-/

/-! ### Words -/

/-- A word without blanks that reads from its start as complete pieces: characters other than a
    backslash, and backslashes with the character that follows. -/
structure IsWord (pieces : List Piece) (w : Text) : Prop where
  textOf_eq : textOf pieces = w
  isBlank_eq : ∀ c ∈ w, Text.isBlank c = false
  backslash_notMem : .plain '\\' ∉ pieces

/-- Whether a place of a word is between two of its pieces, or at an end. -/
def IsPieceBoundary (pieces : List Piece) (p : Nat) : Prop :=
  ∃ before after, pieces = before ++ after ∧ length (textOf before) = p

/-- Pieces with escaped backslashes in front of an `x` and two hex digits: the pieces before them, how
    many of them there are but the first, the digits, and the pieces behind. -/
structure IsMisread (pieces front : List Piece) (n : Nat) (h l : Char) (back : List Piece) :
    Prop where
  pieces_eq : pieces =
    front ++ (List.replicate (n + 1) (.escaped '\\') ++ .plain 'x' :: .plain h :: .plain l :: back)
  isDigit_high : Hex.isDigit h = true
  isDigit_low : Hex.isDigit l = true

theorem IsMisread.cons {pieces front back : List Piece} {n : Nat} {h l : Char}
    (hmisread : IsMisread pieces front n h l back) (p : Piece) :
    IsMisread (p :: pieces) (p :: front) n h l back where
  pieces_eq := by
    rw [hmisread.pieces_eq]
    rfl
  isDigit_high := hmisread.isDigit_high
  isDigit_low := hmisread.isDigit_low

/-- How such pieces are read from behind the first of these backslashes on. -/
def misread (n : Nat) (h l : Char) (back : List Piece) : List Piece :=
  List.replicate n (.escaped '\\') ++ .escaped 'x' :: .plain h :: .plain l :: back

/-- Whether a piece may stand in a word. -/
def Piece.IsSolid : Piece → Prop
  | plain c => Text.isBlank c = false ∧ c ≠ '\\'
  | escaped c => Text.isBlank c = false

theorem Piece.IsSolid.isUnit {p : Piece} (h : p.IsSolid) : p.IsUnit := by
  cases p with
  | plain c => exact h
  | escaped c =>
    rintro rfl
    cases h

/-- The pieces of a word may stand in it. -/
theorem IsWord.isSolid {pieces : List Piece} {w : Text} (h : IsWord pieces w) :
    ∀ p ∈ pieces, p.IsSolid := by
  intro p hp
  have hblank (c : Char) (hc : c ∈ p.text) : Text.isBlank c = false := by
    refine h.isBlank_eq c ?_
    rw [← h.textOf_eq]
    exact List.mem_flatMap.2 ⟨p, hp, hc⟩
  cases p with
  | plain c =>
    refine ⟨hblank c (List.mem_singleton_self c), ?_⟩
    rintro rfl
    exact h.backslash_notMem hp
  | escaped c => exact hblank c (List.mem_cons_of_mem _ (List.mem_singleton_self c))

/-! ### Reading too late -/

variable {pieces : List Piece}

/-- A character that is no backslash is read, and the pieces behind it. -/
theorem run_cons_textOf {d : Char} (hd : (Piece.plain d).IsUnit) (h : ∀ p ∈ pieces, p.IsUnit) :
    run (d :: textOf pieces) = (.plain d :: pieces, []) := by
  rw [run_plain hd, run_textOf h]

/-- In front of pieces without a byte escape, only a backslash lets one be read. -/
theorem eq_backslash_of_hasByte_run {d : Char} (hd : Text.isBlank d = false)
    (h : ∀ p ∈ pieces, p.IsUnit) (hnone : hasByte pieces = false)
    (hbyte : hasByte (run (d :: textOf pieces)).1 = true) : d = '\\' := by
  by_contra hne
  rw [run_cons_textOf ⟨hd, hne⟩ h] at hbyte
  have hpieces : hasByte pieces = true := hbyte
  rw [hnone] at hpieces
  cases hpieces

/-- **Behind a backslash** that is escaped itself, a byte escape is read only if more escaped
    backslashes come, and then an `x` and two hex digits. -/
theorem exists_of_hasByte_run (hsolid : ∀ p ∈ pieces, p.IsSolid) (hnone : hasByte pieces = false)
    (hbyte : hasByte (run ('\\' :: textOf pieces)).1 = true) :
    ∃ n h l back, IsMisread (.escaped '\\' :: pieces) [] n h l back ∧
      run ('\\' :: textOf pieces) = (misread n h l back, []) := by
  induction pieces with
  | nil =>
    rw [textOf_nil, run] at hbyte
    cases hbyte
  | cons p more ih =>
    obtain ⟨hp, hmore⟩ := List.forall_mem_cons.1 hsolid
    have hunit (q : Piece) (hq : q ∈ more) : q.IsUnit := (hmore q hq).isUnit
    rw [hasByte, Bool.or_eq_false_iff] at hnone
    cases p with
    | plain c =>
      have hc : (Piece.escaped c).IsUnit := Piece.IsSolid.isUnit hp.1
      have hrun : run ('\\' :: textOf (.plain c :: more)) = (.escaped c :: more, []) := by
        rw [textOf_plain, run_escaped hc, run_textOf hunit]
      rw [hrun, hasByte, hnone.2, Bool.or_false, startsWithByte_iff] at hbyte
      -- No piece behind holds a byte escape, so this one begins it, with two digits behind.
      obtain ⟨h, l, back, heq, hh, hl⟩ := hbyte
      obtain ⟨hx, rfl⟩ := List.cons.inj heq
      cases hx
      exact ⟨0, h, l, back, ⟨rfl, hh, hl⟩, hrun⟩
    | escaped e =>
      have hbackslash : (Piece.escaped '\\').IsUnit := by
        show '\\' ≠ '\n'
        decide
      rw [textOf_escaped, run_escaped hbackslash, hasByte] at hbyte
      -- The backslash in front escapes that of the piece, so the rest is read from `e` on.
      have hrest : hasByte (run (e :: textOf more)).1 = true := hbyte
      obtain rfl := eq_backslash_of_hasByte_run hp hunit hnone.2 hrest
      obtain ⟨n, h, l, back, hmisread, hrun⟩ := ih hmore hnone.2 hrest
      obtain ⟨heq, hh, hl⟩ := hmisread.cons (.escaped '\\')
      refine ⟨n + 1, h, l, back, ⟨heq, hh, hl⟩, ?_⟩
      rw [textOf_escaped, run_escaped hbackslash, hrun]
      rfl

/-- What is read of a text is a token, if a byte escape is read. -/
theorem tokensFrom_cons_of_run {t rest : Text} (start : Nat) (hrun : run t = (pieces, rest))
    (hbyte : hasByte pieces = true) :
    tokensFrom start t =
      ⟨start, textOf pieces⟩ :: tokensFrom (start + length (textOf pieces)) rest := by
  cases t with
  | nil =>
    obtain ⟨rfl, -⟩ := Prod.mk.inj hrun
    cases hbyte
  | cons c more =>
    have hread : hasByte (run (c :: more)).1 = true := by rwa [hrun]
    rw [tokensFrom, dif_pos hread]
    simp only [hrun, Token.stop]

/-- A text that is read to its end is a token. -/
theorem tokensFrom_of_run {t : Text} (start : Nat) (hrun : run t = (pieces, []))
    (hbyte : hasByte pieces = true) : tokensFrom start t = [⟨start, textOf pieces⟩] := by
  rw [tokensFrom_cons_of_run start hrun hbyte, tokensFrom]

/-- What is found among pieces that begin at `start` and have no byte escape: nothing, or a token that
    starts behind the first of the escaped backslashes in front of an `x` and two hex digits. -/
def IsFoundLate (start : Nat) (pieces : List Piece) (found : List Token) : Prop :=
  found = [] ∨ ∃ front n h l back, IsMisread pieces front n h l back ∧
    found = [⟨start + length (textOf front) + 1, textOf (misread n h l back)⟩]

/-- What is found behind a piece is found. -/
theorem IsFoundLate.cons {p : Piece} {start : Nat} {found : List Token}
    (hfound : IsFoundLate (start + length p.text) pieces found) :
    IsFoundLate start (p :: pieces) found := by
  rcases hfound with hnil | ⟨front, n, h, l, back, hmisread, rfl⟩
  · exact Or.inl hnil
  · refine Or.inr ⟨p :: front, n, h, l, back, hmisread.cons p, ?_⟩
    rw [textOf_cons, length_append, Nat.add_assoc start]

/-- **Tokens within pieces.** Where the pieces have no byte escape, a token starts behind a backslash
    that is escaped itself. -/
theorem isFoundLate_tokensFrom (start : Nat) (hsolid : ∀ p ∈ pieces, p.IsSolid)
    (hnone : hasByte pieces = false) :
    IsFoundLate start pieces (tokensFrom start (textOf pieces)) := by
  induction pieces generalizing start with
  | nil =>
    left
    rw [textOf_nil, tokensFrom]
  | cons p more ih =>
    obtain ⟨hp, hmore⟩ := List.forall_mem_cons.1 hsolid
    have hunit (q : Piece) (hq : q ∈ more) : q.IsUnit := (hmore q hq).isUnit
    have hread : hasByte (run (textOf (p :: more))).1 ≠ true := by
      rw [run_textOf fun q hq => (hsolid q hq).isUnit, hnone]
      exact Bool.false_ne_true
    rw [hasByte, Bool.or_eq_false_iff] at hnone
    have hbehind := (ih (start + length p.text) hmore hnone.2).cons
    cases p with
    | plain c =>
      rw [textOf_plain] at hread ⊢
      rw [tokensFrom, dif_neg hread]
      exact hbehind
    | escaped d =>
      rw [textOf_escaped] at hread ⊢
      rw [tokensFrom, dif_neg hread]
      -- The search goes on behind the backslash, and what it escapes is read anew.
      by_cases hlate : hasByte (run (d :: textOf more)).1 = true
      · obtain rfl := eq_backslash_of_hasByte_run hp hunit hnone.2 hlate
        obtain ⟨n, h, l, back, hmisread, hrun⟩ := exists_of_hasByte_run hmore hnone.2 hlate
        rw [hrun] at hlate
        rw [tokensFrom_of_run _ hrun hlate]
        exact Or.inr ⟨[], n, h, l, back, hmisread, rfl⟩
      · rw [tokensFrom, dif_neg hlate, Nat.add_assoc]
        exact hbehind

/-! ### What the tokens stand for -/

/-- Escaped backslashes in front of more pieces are decoded one by one. -/
theorem decode_replicate_append (n : Nat) (more : List Piece) :
    Escape.decode (textOf (List.replicate n (.escaped '\\') ++ more)) =
      List.replicate n 0x5C ++ Escape.decode (textOf more) := by
  induction n with
  | zero => rfl
  | succ n ih =>
    rw [List.replicate_succ, List.cons_append, textOf_escaped, Escape.decode_backslash, ih]
    rfl

/-- Read too late, the `x` and the digits stand for a byte, and one backslash less is left. -/
theorem decode_misread {n : Nat} {h l : Char} {back : List Piece} (hh : Hex.isDigit h = true)
    (hl : Hex.isDigit l = true) :
    Escape.decode (textOf (misread n h l back)) =
      List.replicate n 0x5C ++
        Hex.join ((Hex.value? h).getD 0) ((Hex.value? l).getD 0) :: Escape.decode (textOf back) := by
  rw [misread, decode_replicate_append]
  simp only [textOf_escaped, textOf_plain, Escape.decode_full hh hl]

/-- Read from the start, the `x` and the digits stand for themselves. -/
theorem IsMisread.decode_eq {front back : List Piece} {n : Nat} {h l : Char}
    (hmisread : IsMisread pieces front n h l back) (hunit : ∀ p ∈ pieces, p.IsUnit) :
    Escape.decode (textOf pieces) =
      Escape.decode (textOf front) ++ List.replicate (n + 1) 0x5C ++ Utf8.encode ['x', h, l] ++
        Escape.decode (textOf back) := by
  have hfront : (run (textOf front)).2 = [] := by
    rw [run_textOf]
    intro p hp
    refine hunit p ?_
    rw [hmisread.pieces_eq]
    exact List.mem_append_left _ hp
  rw [hmisread.pieces_eq, textOf_append, Escape.decode_append hfront, decode_replicate_append]
  · simp only [textOf_plain, Escape.decode_plain (Hex.isBlank_of_isDigit hmisread.isDigit_high).2,
      Escape.decode_plain (Hex.isBlank_of_isDigit hmisread.isDigit_low).2,
      Escape.decode_plain (show 'x' ≠ '\\' by decide), Utf8.encode]
    simp
  · rw [List.replicate_succ, List.cons_append, textOf_escaped]
    intro c hc
    obtain rfl : '\\' = c := Option.some.inj hc
    decide

/-! ### Tokens of words -/

variable {w : Text}

/-- Behind the first of the backslashes is no place between pieces. -/
theorem IsMisread.not_isPieceBoundary {front back : List Piece} {n : Nat} {h l : Char}
    (hmisread : IsMisread pieces front n h l back) :
    ¬ IsPieceBoundary pieces (length (textOf front) + 1) := by
  rintro ⟨before, after, hpieces, hlen⟩
  rw [hmisread.pieces_eq, List.replicate_succ] at hpieces
  -- The pieces in front do not reach the place, and with one more they go beyond it.
  rcases List.append_eq_append_iff.1 hpieces with ⟨gap, rfl, hgap⟩ | ⟨gap, rfl, hgap⟩
  · rw [textOf_append, length_append] at hlen
    cases gap with
    | nil =>
      rw [textOf_nil, length] at hlen
      omega
    | cons p gap =>
      obtain ⟨rfl, -⟩ := List.cons.inj hgap
      have hbackslash : '\\'.utf8Size = 1 := rfl
      rw [textOf_escaped, length_cons, length_cons, hbackslash] at hlen
      omega
  · rw [textOf_append, length_append] at hlen
    omega

/-- **Where a token starts in a word.** If some escape of the word is a byte escape, then the word is
    its only token.  If not, then it has a token only where escaped backslashes stand in front of an
    `x` and two hex digits: the token starts behind the first of them, and does not stand for what the
    word stands for there, but for a backslash less and the byte that the digits spell.  So tokens
    start between the pieces of a word exactly if one of its escapes is a byte escape, or no byte
    escape stands in it anywhere. -/
theorem tokens_of_isWord (hword : IsWord pieces w) :
    (HoldsByte pieces → tokens w = [⟨0, w⟩]) ∧
      (byteEscapes w = [] → tokens w = []) ∧
      (¬ HoldsByte pieces → byteEscapes w ≠ [] →
        ∃ front n h l back, IsMisread pieces front n h l back ∧
          tokens w = [⟨length (textOf front) + 1, textOf (misread n h l back)⟩] ∧
          Escape.decode w = Escape.decode (textOf front) ++ List.replicate (n + 1) 0x5C ++
            Utf8.encode ['x', h, l] ++ Escape.decode (textOf back) ∧
          Escape.decode (textOf (misread n h l back)) = List.replicate n 0x5C ++
            Hex.join ((Hex.value? h).getD 0) ((Hex.value? l).getD 0) ::
              Escape.decode (textOf back)) ∧
      ((∀ token ∈ tokens w, IsPieceBoundary pieces token.start) ↔
        HoldsByte pieces ∨ byteEscapes w = []) := by
  have hunit (p : Piece) (hp : p ∈ pieces) : p.IsUnit := (hword.isSolid p hp).isUnit
  obtain rfl := hword.textOf_eq
  have hnil := (covers_tokens (textOf pieces)).eq_nil_iff
  -- A word is read to its end, so its token has no room for another one.
  have hwhole (hbyte : HoldsByte pieces) : tokens (textOf pieces) = [⟨0, textOf pieces⟩] := by
    rw [tokens_eq]
    exact tokensFrom_of_run 0 (run_textOf hunit) (hasByte_iff.2 hbyte)
  have hlate (hnone : ¬ HoldsByte pieces) (hsome : byteEscapes (textOf pieces) ≠ []) :
      ∃ front n h l back, IsMisread pieces front n h l back ∧
        tokens (textOf pieces) = [⟨length (textOf front) + 1, textOf (misread n h l back)⟩] := by
    rw [← hasByte_iff, Bool.not_eq_true] at hnone
    rcases isFoundLate_tokensFrom 0 hword.isSolid hnone with
      hempty | ⟨front, n, h, l, back, hmisread, htokens⟩
    · rw [← tokens_eq, hnil] at hempty
      exact absurd hempty hsome
    · rw [← tokens_eq, Nat.zero_add] at htokens
      exact ⟨front, n, h, l, back, hmisread, htokens⟩
  refine ⟨hwhole, hnil.2, fun hnone hsome => ?_, ?_, ?_⟩
  · obtain ⟨front, n, h, l, back, hmisread, htokens⟩ := hlate hnone hsome
    exact ⟨front, n, h, l, back, hmisread, htokens, hmisread.decode_eq hunit,
      decode_misread hmisread.isDigit_high hmisread.isDigit_low⟩
  · intro hall
    -- Otherwise the one token starts within an escaped backslash.
    by_contra hnot
    obtain ⟨hnone, hsome⟩ := not_or.1 hnot
    obtain ⟨front, n, h, l, back, hmisread, htokens⟩ := hlate hnone hsome
    rw [htokens] at hall
    exact hmisread.not_isPieceBoundary (hall _ (List.mem_singleton_self _))
  · rintro (hbyte | hnone)
    · rw [hwhole hbyte]
      intro token htoken
      rw [List.mem_singleton.1 htoken]
      exact ⟨[], pieces, rfl, rfl⟩
    · rw [hnil.2 hnone]
      intro token htoken
      cases htoken

theorem tokens_of_isWord_of_backslash :
    (IsWord [.escaped '\\', .escaped 'x', .plain 'd', .plain '6'] "\\\\\\xd6".toList ∧
      HoldsByte [.escaped '\\', .escaped 'x', .plain 'd', .plain '6']) ∧
      tokens "\\\\\\xd6".toList = [⟨0, "\\\\\\xd6".toList⟩] := by
  have hword : IsWord [.escaped '\\', .escaped 'x', .plain 'd', .plain '6'] "\\\\\\xd6".toList :=
    ⟨by decide +kernel, List.forall_iff_forall_mem.1 (by decide +kernel), by simp⟩
  have hbyte : HoldsByte [.escaped '\\', .escaped 'x', .plain 'd', .plain '6'] :=
    ⟨[.escaped '\\'], 'd', '6', [], rfl, by decide, by decide⟩
  exact ⟨⟨hword, hbyte⟩, (tokens_of_isWord hword).1 hbyte⟩

/-- An escaped backslash with `xd6@` behind it stands for ASCII text.  The token of this word starts
    behind its first backslash, and stands for a GBK name.  As the last field of a line, the word is
    read from its start. -/
theorem tokens_of_escaped_backslash :
    IsWord [.escaped '\\', .plain 'x', .plain 'd', .plain '6', .plain '@'] "\\\\xd6@".toList ∧
      tokens "\\\\xd6@".toList = [⟨1, "\\xd6@".toList⟩] ∧
      ¬ IsPieceBoundary [.escaped '\\', .plain 'x', .plain 'd', .plain '6', .plain '@'] 1 ∧
      Escape.decode "\\\\xd6@".toList = Utf8.encode "\\xd6@".toList ∧
      isGbkName (Escape.decode "\\\\xd6@".toList) = false ∧
      Escape.decode "\\xd6@".toList = [0xD6, 0x40] ∧
      isGbkName (Escape.decode "\\xd6@".toList) = true ∧
      field? ('\t' :: "\\\\xd6@".toList) = some ⟨1, "\\\\xd6@".toList⟩ := by
  have hword : IsWord [.escaped '\\', .plain 'x', .plain 'd', .plain '6', .plain '@']
      "\\\\xd6@".toList :=
    ⟨by decide +kernel, List.forall_iff_forall_mem.1 (by decide +kernel), by simp⟩
  have hmisread : IsMisread [.escaped '\\', .plain 'x', .plain 'd', .plain '6', .plain '@'] [] 0
      'd' '6' [.plain '@'] :=
    ⟨rfl, by decide, by decide⟩
  refine ⟨hword, by decide +kernel, hmisread.not_isPieceBoundary, ?_⟩
  decide +kernel

end WifiNames.Scan
