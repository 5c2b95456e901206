import WifiNames.Proofs.Layout
import WifiNames.Proofs.Scan.Pattern

namespace WifiNames.Scan

open Utf8

/-!
# Maximal runs — what the tokens of a line are

A token is the longest run from its start, has a byte escape, and starts at the first place where
that is so behind the token before it.  These facts alone determine the tokens of a line.

* `IsEscapedRun` — the longest run from some place of a line, with a byte escape among its pieces.
* `isEscapedRun_iff` — it is the one that is read from there.
* `Finds` — the escaped runs that are found from a place on, each the first one behind the last.
* `Finds.unique` — a line has one such list.
* `finds_tokensFrom` — **the scan finds them.**
-/

/-! ### Escaped runs -/

/-- Whether a token is the longest run of pieces from its start in a line, and has the pieces of a
    byte escape. -/
def IsEscapedRun (line : Text) (token : Token) : Prop :=
  ∃ before rest pieces, line = before ++ rest ∧ length before = token.start ∧
    IsLongestRun pieces rest ∧ HoldsByte pieces ∧ token.text = textOf pieces

/-- An escaped run begins behind some text, with what is read there. -/
theorem isEscapedRun_iff_exists {line : Text} {token : Token} :
    IsEscapedRun line token ↔ ∃ before rest, line = before ++ rest ∧
      length before = token.start ∧ hasByte (run rest).1 = true ∧
        token.text = textOf (run rest).1 := by
  constructor
  · rintro ⟨before, rest, pieces, hline, hstart, hlongest, hbyte, htext⟩
    obtain rfl := isLongestRun_iff.1 hlongest
    exact ⟨before, rest, hline, hstart, hasByte_iff.2 hbyte, htext⟩
  · rintro ⟨before, rest, hline, hstart, hbyte, htext⟩
    exact ⟨before, rest, _, hline, hstart, isLongestRun_iff.2 rfl, hasByte_iff.1 hbyte, htext⟩

/-- **Escaped runs.** From one place of a line there is one, exactly if the run that is read there
    has a byte escape. -/
theorem isEscapedRun_iff {before rest text : Text} :
    IsEscapedRun (before ++ rest) ⟨length before, text⟩ ↔
      hasByte (run rest).1 = true ∧ text = textOf (run rest).1 := by
  rw [isEscapedRun_iff_exists]
  constructor
  · rintro ⟨before', rest', hline, hstart, hbyte, htext⟩
    -- A line is cut in one way at one place, so it is the same rest.
    obtain ⟨-, rfl⟩ := append_inj_of_length_eq hline hstart.symm
    exact ⟨hbyte, htext⟩
  · rintro ⟨hbyte, htext⟩
    exact ⟨before, rest, rfl, rfl, hbyte, htext⟩

/-- Escaped runs of a line that start at one place are the same. -/
theorem IsEscapedRun.eq_of_start_eq {line : Text} {a b : Token} (ha : IsEscapedRun line a)
    (hb : IsEscapedRun line b) (hstart : a.start = b.start) : a = b := by
  obtain ⟨before, rest, rfl, hlen, -⟩ := isEscapedRun_iff_exists.1 ha
  -- Both are read from one place of the line.
  obtain ⟨start, text⟩ := a
  obtain ⟨_, text'⟩ := b
  obtain rfl : start = _ := hstart
  obtain rfl : length before = start := hlen
  rw [(isEscapedRun_iff.1 ha).2, (isEscapedRun_iff.1 hb).2]

/-- An escaped run that does not start before a place starts in the rest of the line behind it. -/
theorem IsEscapedRun.exists_gap {before t : Text} {token : Token}
    (h : IsEscapedRun (before ++ t) token) (hle : length before ≤ token.start) :
    ∃ gap rest, t = gap ++ rest ∧ token.start = length before + length gap ∧
      hasByte (run rest).1 = true := by
  obtain ⟨upto, rest, hline, hstart, hbyte, -⟩ := isEscapedRun_iff_exists.1 h
  rw [← hstart] at hle
  obtain ⟨gap, rfl, rfl⟩ := exists_append_of_length_le hline hle
  rw [length_append] at hstart
  exact ⟨gap, rest, rfl, hstart.symm, hbyte⟩

/-! ### The first ones -/

/-- The escaped runs of a line that are found from byte `pos` on: the first one that does not start
    before it, and those that are found from its end on. -/
inductive Finds (line : Text) : Nat → List Token → Prop where
  /-- Every escaped run starts before `pos`. -/
  | done {pos : Nat} (hnone : ∀ token, IsEscapedRun line token → token.start < pos) :
      Finds line pos []
  /-- The first one, and what is found behind it. -/
  | next {pos : Nat} {token : Token} {more : List Token} (hrun : IsEscapedRun line token)
      (hpos : pos ≤ token.start)
      (hfirst : ∀ other, IsEscapedRun line other → pos ≤ other.start → token.start ≤ other.start)
      (hmore : Finds line token.stop more) : Finds line pos (token :: more)

namespace Finds

variable {line : Text} {pos : Nat} {found others : List Token}

/-- **One list.** What is found in a line is determined. -/
theorem unique (h : Finds line pos found) (hothers : Finds line pos others) : found = others := by
  induction h generalizing others with
  | done hnone =>
    cases hothers with
    | done => rfl
    | next hrun hpos => exact absurd hpos (Nat.not_le_of_lt (hnone _ hrun))
  | next hrun hpos hfirst hmore ih =>
    cases hothers with
    | done hnone => exact absurd hpos (Nat.not_le_of_lt (hnone _ hrun))
    | next hrun' hpos' hfirst' hmore' =>
      have hle := hfirst _ hrun' hpos'
      have hle' := hfirst' _ hrun hpos
      obtain rfl := hrun.eq_of_start_eq hrun' (Nat.le_antisymm hle hle')
      rw [ih hmore']

/-- To begin earlier finds the same where no escaped run starts in between. -/
theorem of_le {pos' : Nat} (h : Finds line pos' found) (hle : pos ≤ pos')
    (hskip : ∀ token, IsEscapedRun line token → pos ≤ token.start → pos' ≤ token.start) :
    Finds line pos found := by
  cases h with
  | done hnone =>
    refine .done fun token htoken => ?_
    have hlt := hnone token htoken
    have hpos := hskip token htoken
    omega
  | next hrun hpos hfirst hmore =>
    exact .next hrun (Nat.le_trans hle hpos)
      (fun other hother hother' => hfirst other hother (hskip other hother hother')) hmore

end Finds

/-- **The scan** of the rest of a line finds the escaped runs from there on. -/
theorem finds_tokensFrom (before t : Text) :
    Finds (before ++ t) (length before) (tokensFrom (length before) t) := by
  generalize hpos : length before = pos
  fun_induction tokensFrom pos t generalizing before with
  | case1 pos =>
    refine .done fun token htoken => Nat.lt_of_not_le fun hle => ?_
    rw [← hpos] at hle
    obtain ⟨gap, rest, hnil, -, hbyte⟩ := htoken.exists_gap hle
    rw [(List.append_eq_nil_iff.1 hnil.symm).2] at hbyte
    cases hbyte
  | case2 pos c rest hbyte token ih =>
    subst hpos
    have hline : before ++ token.text ++ (run (c :: rest)).2 = before ++ c :: rest := by
      rw [List.append_assoc, textOf_run]
    have hmore := ih (before ++ token.text) (length_append before token.text)
    rw [hline] at hmore
    exact .next (isEscapedRun_iff.2 ⟨hbyte, rfl⟩) (Nat.le_refl _) (fun _ _ hle => hle) hmore
  | case3 pos c rest hbyte ih =>
    subst hpos
    have hmore := ih (before ++ [c]) (length_append before [c])
    rw [List.append_assoc, List.singleton_append] at hmore
    refine hmore.of_le (Nat.le_add_right _ _) fun token htoken hle => ?_
    obtain ⟨gap, rest', hgap, hstart, hbyte'⟩ := htoken.exists_gap hle
    cases gap with
    | nil =>
      obtain rfl : c :: rest = rest' := hgap
      exact absurd hbyte' hbyte
    | cons d gap =>
      obtain ⟨rfl, -⟩ := List.cons.inj hgap
      rw [hstart, length_cons]
      omega

/-! ### Tokens -/

/-- **Maximal runs.** The tokens of a line are the escaped runs that are found in it, from left to
    right, and nothing else is.  Each says what the line says in its place, and they are the matches
    of the expression for a token. -/
theorem tokens_eq_iff_finds (line : Text) :
    (∀ found, found = tokens line ↔ Finds line 0 found) ∧
      (∀ token ∈ tokens line, IsSlice line token.start token.stop token.text) ∧
      findAll tokenPattern line = tokens line := by
  refine ⟨fun found => ?_, fun _ => isSlice_of_mem_tokens, findAll_tokenPattern line⟩
  have hfinds : Finds line 0 (tokensFrom 0 line) := finds_tokensFrom [] line
  rw [tokens_eq]
  constructor
  · rintro rfl
    exact hfinds
  · intro hfound
    exact hfound.unique hfinds

/-- A run goes over an escaped blank, but over no other. -/
example : tokens "a \\ b\\xd6 c".toList = [⟨2, "\\ b\\xd6".toList⟩] := by
  decide +kernel

end WifiNames.Scan
