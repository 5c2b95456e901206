import Mathlib.Data.List.Pairwise
import WifiNames.Proofs.Field
import WifiNames.Proofs.Scan.Pattern

namespace WifiNames.Scan

open Utf8

/-!
# Coverage — every byte escape is in a token

Tokens and byte escapes are looked for in two ways, and what one of them finds the other one does not
miss.  A byte escape may begin with a backslash that is read as the second character of an escaped
backslash, but it is never cut by the end of a run: its other characters are plain ones then.

* `IsByteEscape` — a place of a line where a byte escape stands.
* `mem_byteEscapes_iff` — the byte escapes of a line are all of them.
* `IsUncut`, `isUncut_run` — **a byte escape is within the run or behind it.**
* `exists_mem_tokensFrom`, `hasByteEscape_of_mem_tokensFrom` — it is in a token, and a token has one.
* `eq_of_mem_tokens` — tokens are apart.
* `Covers`, `covers_tokens` — tokens cover the byte escapes of their line.
* `names_eq_nil_iff`, `existsUnique_mem_names` — and so do the names of a line that has no field.
-/

/-! ### Places -/

/-- Whether a backslash, `x` and two hex digits stand in a line from byte `p` on. -/
def IsByteEscape (line : Text) (p : Nat) : Prop :=
  ∃ h l, Hex.isDigit h = true ∧ Hex.isDigit l = true ∧ IsSlice line p (p + 4) ['\\', 'x', h, l]

/-- A byte escape has four bytes. -/
theorem length_byteEscape {h l : Char} (hh : Hex.isDigit h = true) (hl : Hex.isDigit l = true) :
    length ['\\', 'x', h, l] = 4 := by
  rw [length_cons, length_cons, length_cons, length_cons, Hex.utf8Size_of_isDigit hh,
    Hex.utf8Size_of_isDigit hl]
  rfl

/-- A text that begins with a byte escape has its bytes. -/
theorem four_le_length_of_startsByteEscape {t : Text} (ht : startsByteEscape t = true) :
    4 ≤ length t := by
  obtain ⟨h, l, rest, rfl, hh, hl⟩ := startsByteEscape_iff.1 ht
  have hsplit : '\\' :: 'x' :: h :: l :: rest = ['\\', 'x', h, l] ++ rest := rfl
  rw [hsplit, length_append, length_byteEscape hh hl]
  omega

/-- A byte escape stands where the rest of the line begins with one. -/
theorem isByteEscape_iff {line : Text} {p : Nat} :
    IsByteEscape line p ↔
      ∃ before rest, line = before ++ rest ∧ startsByteEscape rest = true ∧ length before = p := by
  constructor
  · rintro ⟨h, l, hh, hl, before, after, rfl, hstart, -⟩
    exact ⟨before, _, List.append_assoc _ _ _, startsByteEscape_iff.2 ⟨h, l, after, rfl, hh, hl⟩,
      hstart⟩
  · rintro ⟨before, rest, rfl, hstarts, rfl⟩
    obtain ⟨h, l, after, rfl, hh, hl⟩ := startsByteEscape_iff.1 hstarts
    refine ⟨h, l, hh, hl, before, after, by simp, rfl, ?_⟩
    rw [length_append, length_byteEscape hh hl]

theorem mem_byteEscapesFrom_iff {start p : Nat} {t : Text} :
    p ∈ byteEscapesFrom start t ↔
      ∃ before rest, t = before ++ rest ∧ startsByteEscape rest = true ∧
        p = start + length before := by
  induction t generalizing start with
  | nil =>
    simp only [byteEscapesFrom, List.not_mem_nil, false_iff]
    rintro ⟨before, rest, hnil, hstarts, -⟩
    rw [(List.append_eq_nil_iff.1 hnil.symm).2] at hstarts
    cases hstarts
  | cons c t ih =>
    -- A place is this one, or it is behind the first character.
    have hcons : p ∈ byteEscapesFrom start (c :: t) ↔
        (startsByteEscape (c :: t) = true ∧ p = start) ∨
          p ∈ byteEscapesFrom (start + c.utf8Size) t := by
      rw [byteEscapesFrom]
      split <;> simp [*]
    rw [hcons, ih]
    constructor
    · rintro (⟨hstarts, rfl⟩ | ⟨before, rest, rfl, hstarts, rfl⟩)
      · exact ⟨[], c :: t, rfl, hstarts, rfl⟩
      · exact ⟨c :: before, rest, rfl, hstarts, Nat.add_assoc _ _ _⟩
    · rintro ⟨before, rest, happend, hstarts, rfl⟩
      cases before with
      | nil =>
        obtain rfl : c :: t = rest := happend
        exact Or.inl ⟨hstarts, rfl⟩
      | cons d before =>
        obtain ⟨rfl, rfl⟩ := List.cons.inj happend
        exact Or.inr ⟨before, rest, rfl, hstarts, (Nat.add_assoc _ _ _).symm⟩

/-- **Places.** The byte escapes of a line are found wherever they stand. -/
theorem mem_byteEscapes_iff {line : Text} {p : Nat} :
    p ∈ byteEscapes line ↔ IsByteEscape line p := by
  rw [byteEscapes, mem_byteEscapesFrom_iff, isByteEscape_iff]
  simp only [Nat.zero_add, eq_comm]

/-- A byte escape stands in a text whatever comes behind it. -/
theorem startsByteEscape_append {t : Text} (ht : startsByteEscape t = true) (after : Text) :
    startsByteEscape (t ++ after) = true := by
  obtain ⟨h, l, rest, rfl, hh, hl⟩ := startsByteEscape_iff.1 ht
  exact startsByteEscape_iff.2 ⟨h, l, rest ++ after, rfl, hh, hl⟩

/-- A byte escape in a slice stands in the line. -/
theorem exists_isByteEscape_of_isSlice {line t : Text} {start stop : Nat}
    (h : IsSlice line start stop t) (ht : hasByteEscape t = true) :
    ∃ p, IsByteEscape line p ∧ start ≤ p ∧ p + 4 ≤ stop := by
  obtain ⟨before, rest, rfl, hstarts⟩ := hasByteEscape_iff.1 ht
  obtain ⟨front, after, rfl, rfl, rfl⟩ := h
  have hfour := four_le_length_of_startsByteEscape hstarts
  have hplace : IsByteEscape (front ++ (before ++ rest) ++ after) (length (front ++ before)) :=
    isByteEscape_iff.2 ⟨front ++ before, rest ++ after, by simp, startsByteEscape_append hstarts after,
      rfl⟩
  simp only [length_append] at hplace ⊢
  exact ⟨_, hplace, by omega, by omega⟩

/-! ### Runs -/

/-- Pieces that begin with those of a byte escape spell one. -/
theorem startsByteEscape_textOf {pieces : List Piece} (hpieces : startsWithByte pieces = true) :
    startsByteEscape (textOf pieces) = true := by
  obtain ⟨h, l, rest, rfl, hh, hl⟩ := startsWithByte_iff.1 hpieces
  exact startsByteEscape_iff.2 ⟨h, l, textOf rest, rfl, hh, hl⟩

/-- Whether the byte escape that `rest` begins with, behind `before`, is not cut where a text is divided
    into what is taken and what is left: it is within the one or within the other. -/
def IsUncut (before rest taken left : Text) : Prop :=
  (∃ more, taken = before ++ more ∧ startsByteEscape more = true) ∨
    ∃ gap, before = taken ++ gap ∧ left = gap ++ rest

/-- More text in front changes nothing. -/
theorem IsUncut.append {before rest taken left : Text} (h : IsUncut before rest taken left)
    (front : Text) : IsUncut (front ++ before) rest (front ++ taken) left := by
  rcases h with ⟨more, rfl, hmore⟩ | ⟨gap, rfl, hgap⟩
  · exact Or.inl ⟨more, (List.append_assoc _ _ _).symm, hmore⟩
  · exact Or.inr ⟨gap, (List.append_assoc _ _ _).symm, hgap⟩

/-- **No byte escape is cut** by the end of the run that its text begins with. -/
theorem isUncut_run {t before rest : Text} (ht : before ++ rest = t)
    (hstarts : startsByteEscape rest = true) :
    IsUncut before rest (textOf (run t).1) (run t).2 := by
  induction t using induction_on_pieces generalizing before with
  -- Nothing is taken, so that the whole text is left.
  | stop t hstops =>
    rw [run_of_stops hstops]
    exact Or.inr ⟨before, rfl, ht.symm⟩
  | step p t hp ih =>
    cases before with
    -- The byte escape begins here, and is taken as its three pieces.
    | nil =>
      obtain rfl : rest = p.text ++ t := ht
      rw [← startsWithByte_run] at hstarts
      exact Or.inl ⟨_, rfl, startsByteEscape_textOf hstarts⟩
    | cons b before =>
      rw [run_text_append hp, textOf_cons]
      cases p with
      | plain c =>
        obtain ⟨rfl, hrest⟩ := List.cons.inj ht
        exact (ih hrest).append [b]
      | escaped d =>
        obtain ⟨rfl, hescaped⟩ := List.cons.inj ht
        cases before with
        | nil =>
          -- The backslash of the byte escape is escaped itself.
          obtain rfl : rest = d :: t := hescaped
          obtain ⟨h, l, more, heq, hh, hl⟩ := startsByteEscape_iff.1 hstarts
          obtain ⟨rfl, rfl⟩ := List.cons.inj heq
          rw [run_behind_backslash hh hl]
          exact Or.inl ⟨_, rfl, startsByteEscape_iff.2 ⟨h, l, _, rfl, hh, hl⟩⟩
        | cons e before =>
          obtain ⟨rfl, hrest⟩ := List.cons.inj hescaped
          exact (ih hrest).append ['\\', e]

/-! ### Tokens -/

/-- **No byte escape is missed.** Every one of a text is in one of its tokens. -/
theorem exists_mem_tokensFrom (start : Nat) {t before rest : Text} (ht : before ++ rest = t)
    (hstarts : startsByteEscape rest = true) :
    ∃ token ∈ tokensFrom start t, token.start ≤ start + length before ∧
      start + length before + 4 ≤ token.stop := by
  fun_induction tokensFrom start t generalizing before with
  | case1 start =>
    rw [(List.append_eq_nil_iff.1 ht).2] at hstarts
    cases hstarts
  | case2 start c t hbyte token =>
    rename_i ih
    have hstop : token.stop = start + length (textOf (run (c :: t)).1) := rfl
    -- The byte escape is in this token, or behind it.
    rcases isUncut_run ht hstarts with ⟨more, hmore, hstarts'⟩ | ⟨gap, hbefore, hgap⟩
    · have hfour := four_le_length_of_startsByteEscape hstarts'
      rw [hmore, length_append] at hstop
      exact ⟨token, List.mem_cons_self, Nat.le_add_right _ _, by omega⟩
    · obtain ⟨other, hother, hle, hstop'⟩ := ih hgap.symm
      have hlen : length before = length (textOf (run (c :: t)).1) + length gap := by
        rw [hbefore, length_append]
      exact ⟨other, List.mem_cons_of_mem _ hother, by omega, by omega⟩
  | case3 start c t hbyte ih =>
    cases before with
    | nil =>
      -- A byte escape here would be read, but nothing that is read here has one.
      obtain rfl : rest = c :: t := ht
      rw [← startsWithByte_run] at hstarts
      exact absurd (hasByte_of_startsWithByte hstarts) hbyte
    | cons b before =>
      obtain ⟨rfl, hgap⟩ := List.cons.inj ht
      obtain ⟨token, htoken, hle, hstop⟩ := ih hgap
      rw [length_cons]
      exact ⟨token, htoken, by omega, by omega⟩

/-- Every token says a byte escape. -/
theorem hasByteEscape_of_mem_tokensFrom {start : Nat} {t : Text} :
    ∀ token ∈ tokensFrom start t, hasByteEscape token.text = true := by
  fun_induction tokensFrom start t with
  | case1 => simp
  | case2 start c rest hbyte token ih =>
    refine List.forall_mem_cons.2 ⟨?_, ih⟩
    have hescape := hasByteEscape_of_hasByte [] hbyte
    rwa [List.append_nil] at hescape
  | case3 start c rest _ ih => exact ih

variable {line : Text} {p : Nat}

/-- Tokens with a byte in common are the same. -/
theorem eq_of_mem_tokens {a b : Token} (ha : a ∈ tokens line) (hb : b ∈ tokens line)
    (hpa : a.start ≤ p ∧ p < a.stop) (hpb : b.start ≤ p ∧ p < b.stop) : a = b := by
  have hsymm : Std.Symm fun a b : Token => a.stop ≤ b.start ∨ b.stop ≤ a.start :=
    ⟨fun _ _ => Or.symm⟩
  by_contra hne
  have hpair : (tokens line).Pairwise fun a b => a.stop ≤ b.start ∨ b.stop ≤ a.start :=
    (pairwise_tokens line).imp Or.inl
  -- Two different tokens are apart, and have no byte in common.
  have hapart : a.stop ≤ b.start ∨ b.stop ≤ a.start := hpair.forall ha hb hne
  omega

/-- Every byte escape of a line is in exactly one of its tokens. -/
theorem existsUnique_mem_tokens (h : IsByteEscape line p) :
    ∃! token, token ∈ tokens line ∧ token.start ≤ p ∧ p + 4 ≤ token.stop := by
  obtain ⟨before, rest, hline, hstarts, rfl⟩ := isByteEscape_iff.1 h
  obtain ⟨token, htoken, hle, hstop⟩ := exists_mem_tokensFrom 0 hline.symm hstarts
  rw [← tokens_eq, Nat.zero_add] at *
  refine ⟨token, ⟨htoken, hle, hstop⟩, fun other hother => ?_⟩
  obtain ⟨hmem, hle', hstop'⟩ := hother
  exact eq_of_mem_tokens (p := length before) hmem htoken (by omega) (by omega)

/-- Every token has a byte escape. -/
theorem exists_isByteEscape_of_mem_tokens {token : Token} (h : token ∈ tokens line) :
    ∃ p, IsByteEscape line p ∧ token.start ≤ p ∧ p + 4 ≤ token.stop := by
  refine exists_isByteEscape_of_isSlice (isSlice_of_mem_tokens h) ?_
  rw [tokens_eq] at h
  exact hasByteEscape_of_mem_tokensFrom token h

/-- Tokens that cover the byte escapes of a line: each of these lies within exactly one of them, and
    each of them has one.  They have characters, and are in order and apart. -/
structure Covers (line : Text) (found : List Token) : Prop where
  start_lt_stop : ∀ token ∈ found, token.start < token.stop
  pairwise : found.Pairwise fun a b => a.stop ≤ b.start
  existsUnique : ∀ p ∈ byteEscapes line,
    ∃! token, token ∈ found ∧ token.start ≤ p ∧ p + 4 ≤ token.stop
  exists_byteEscape : ∀ token ∈ found, ∃ p ∈ byteEscapes line, token.start ≤ p ∧ p + 4 ≤ token.stop

theorem covers_tokens (line : Text) : Covers line (tokens line) where
  start_lt_stop _ := start_lt_stop_of_mem_tokens
  pairwise := pairwise_tokens line
  existsUnique _ hp := existsUnique_mem_tokens (mem_byteEscapes_iff.1 hp)
  exists_byteEscape token htoken := by
    obtain ⟨p, hp, hwithin⟩ := exists_isByteEscape_of_mem_tokens htoken
    exact ⟨p, mem_byteEscapes_iff.2 hp, hwithin⟩

/-- No tokens cover the byte escapes of a line exactly if there are none. -/
theorem Covers.eq_nil_iff {found : List Token} (h : Covers line found) :
    found = [] ↔ byteEscapes line = [] := by
  constructor
  · rintro rfl
    rw [List.eq_nil_iff_forall_not_mem]
    intro p hp
    obtain ⟨token, ⟨htoken, -⟩, -⟩ := h.existsUnique p hp
    cases htoken
  · intro hnone
    rw [List.eq_nil_iff_forall_not_mem]
    intro token htoken
    obtain ⟨p, hp, -⟩ := h.exists_byteEscape token htoken
    rw [hnone] at hp
    cases hp

/-! ### Names -/

/-- The field of a line has a byte escape. -/
theorem exists_isByteEscape_of_field {token : Token} (h : field? line = some token) :
    ∃ p, IsByteEscape line p := by
  obtain ⟨before, ends, hresult, -⟩ := field?_eq_some_iff.1 h
  have hslice := Laid.isSlice [] (laid_field h) (.ofToken token) List.mem_cons_self
  obtain ⟨p, hp, -⟩ := exists_isByteEscape_of_isSlice hslice hresult.hasByteEscape_eq
  exact ⟨p, hp⟩

/-- A line has no names exactly if it has no byte escapes. -/
theorem names_eq_nil_iff : names line = [] ↔ byteEscapes line = [] := by
  unfold names
  split
  · rename_i token hfield
    -- A field makes a name, and only a text with a byte escape is a field.
    obtain ⟨p, hp⟩ := exists_isByteEscape_of_field hfield
    simp only [List.cons_ne_nil, false_iff]
    exact List.ne_nil_of_mem (mem_byteEscapes_iff.2 hp)
  · rw [List.map_eq_nil_iff, (covers_tokens line).eq_nil_iff]

/-- Where a line has no field, a byte escape is in exactly one name. -/
theorem existsUnique_mem_names (hfield : field? line = none) (hp : p ∈ byteEscapes line) :
    ∃! s, s ∈ names line ∧ s.start ≤ p ∧ p + 4 ≤ s.stop := by
  have hnames : names line = (tokens line).map .ofToken := by
    unfold names
    rw [hfield]
  obtain ⟨token, ⟨htoken, hwithin⟩, hunique⟩ := (covers_tokens line).existsUnique p hp
  rw [hnames]
  refine ⟨.ofToken token, ⟨List.mem_map_of_mem htoken, hwithin⟩, ?_⟩
  rintro s ⟨hs, hwithin'⟩
  obtain ⟨other, hother, rfl⟩ := List.mem_map.1 hs
  rw [hunique other ⟨hother, hwithin'⟩]

/-- **No byte escape is overlooked.** The byte escapes of a line are the matches of their expression,
    and they are wherever a backslash, `x` and two hex digits stand.  Its tokens cover them.  So a line
    has no names exactly if it has no byte escapes, and if it has no field, then each of them is in
    exactly one of its names. -/
theorem overlooksNone (line : Text) :
    (findAll byteEscapePattern line).map Token.start = byteEscapes line ∧
      (∀ p, p ∈ byteEscapes line ↔ IsByteEscape line p) ∧
      Covers line (tokens line) ∧
      (names line = [] ↔ byteEscapes line = []) ∧
      (field? line = none →
        ∀ p ∈ byteEscapes line, ∃! s, s ∈ names line ∧ s.start ≤ p ∧ p + 4 ≤ s.stop) :=
  ⟨map_start_findAll_byteEscapePattern line, fun _ => mem_byteEscapes_iff, covers_tokens line,
    names_eq_nil_iff, fun hfield _ hp => existsUnique_mem_names hfield hp⟩

/-- The backslash of the first byte escape is escaped itself, and its token begins behind the escaping
    one. -/
theorem overlooksNone_of_escaped_backslash :
    (field? "a\\\\xd6 \\xd0".toList = none ∧ byteEscapes "a\\\\xd6 \\xd0".toList = [2, 7]) ∧
      tokens "a\\\\xd6 \\xd0".toList = [⟨2, "\\xd6".toList⟩, ⟨7, "\\xd0".toList⟩] ∧
      ∃! s, s ∈ names "a\\\\xd6 \\xd0".toList ∧ s.start ≤ 2 ∧ 2 + 4 ≤ s.stop := by
  have hfield : field? "a\\\\xd6 \\xd0".toList = none := by decide +kernel
  have hescapes : byteEscapes "a\\\\xd6 \\xd0".toList = [2, 7] := by decide +kernel
  obtain ⟨-, -, -, -, hnames⟩ := overlooksNone "a\\\\xd6 \\xd0".toList
  refine ⟨⟨hfield, hescapes⟩, by decide +kernel, hnames hfield 2 ?_⟩
  rw [hescapes]
  exact List.mem_cons_self

end WifiNames.Scan
