import WifiNames.Proofs.Utf8.Slice
import WifiNames.Scan.Segment

namespace WifiNames.Scan

open Utf8

/-!
# Layout — where the names of a line stand

Whatever reads a line goes along it from left to right, so its findings stand in the line in order
and apart from each other.

* `Laid` — segments that stand in a text like that.
* `Fits` — the same without the order, as a condition on each segment and each pair of segments.
* `Fits.laid`, `Laid.fits` — fitting segments that are sorted are laid, and the converse.
* `laid_names` — the names of a line are laid along it.
-/

/-! ### Laid segments -/

/-- Segments that stand in a text in order and apart from each other, if the text itself begins at
    byte `pos`. -/
inductive Laid : Nat → Text → List Segment → Prop where
  /-- Whatever is left holds no more of them. -/
  | nil (pos : Nat) (rest : Text) : Laid pos rest []
  /-- Some text, the first segment, and what comes after it. -/
  | cons {pos : Nat} {gap rest : Text} {s : Segment} {more : List Segment}
      (hstart : s.start = pos + length gap) (hstop : s.stop = s.start + length s.text)
      (hne : s.text ≠ []) (hmore : Laid s.stop rest more) :
      Laid pos (gap ++ (s.text ++ rest)) (s :: more)

namespace Laid

/-- More text in front changes nothing. -/
theorem append {pos : Nat} {t : Text} {segments : List Segment} (front : Text)
    (h : Laid (pos + length front) t segments) : Laid pos (front ++ t) segments := by
  cases h with
  | nil => exact .nil pos _
  | @cons _ gap rest s more hstart hstop hne hmore =>
    -- The text in front is a longer gap before the first segment.
    rw [← List.append_assoc]
    refine .cons ?_ hstop hne hmore
    rw [hstart, length_append, Nat.add_assoc]

/-- Only the places and the texts of the segments matter. -/
theorem map {pos : Nat} {t : Text} {segments : List Segment} (h : Laid pos t segments)
    {f : Segment → Segment}
    (hf : ∀ s, (f s).start = s.start ∧ (f s).stop = s.stop ∧ (f s).text = s.text) :
    Laid pos t (segments.map f) := by
  induction h with
  | nil pos rest => exact .nil pos rest
  | @cons pos gap rest s more hstart hstop hne hmore ih =>
    obtain ⟨hfstart, hfstop, hftext⟩ := hf s
    rw [List.map_cons, ← hftext]
    refine .cons ?_ ?_ ?_ ?_
    · rw [hfstart, hstart]
    · rw [hfstop, hfstart, hftext, hstop]
    · rw [hftext]
      exact hne
    · rw [hfstop]
      exact ih

/-- Laid segments start in the text and stop behind their start. -/
theorem le_start {pos : Nat} {t : Text} {segments : List Segment} (h : Laid pos t segments) :
    ∀ s ∈ segments, pos ≤ s.start ∧ s.start < s.stop := by
  induction h with
  | nil => simp
  | @cons pos gap rest s more hstart hstop hne hmore ih =>
    have hpos := length_pos_iff.2 hne
    refine List.forall_mem_cons.2 ⟨by omega, fun x hx => ?_⟩
    have hx' := ih x hx
    omega

/-- Laid segments are in order, each behind the end of those before it. -/
theorem pairwise {pos : Nat} {t : Text} {segments : List Segment} (h : Laid pos t segments) :
    segments.Pairwise fun a b => a.stop ≤ b.start := by
  induction h with
  | nil => exact .nil
  | cons _ _ _ hmore ih => exact .cons (fun x hx => (hmore.le_start x hx).1) ih

/-- Laid segments are sorted already. -/
theorem sortByStart_eq {pos : Nat} {t : Text} {segments : List Segment}
    (h : Laid pos t segments) : sortByStart segments = segments := by
  refine List.mergeSort_of_pairwise (h.pairwise.imp_of_mem fun {a b} ha _ hab => ?_)
  have hstart := (h.le_start a ha).2
  rw [decide_eq_true_eq]
  omega

/-- A line up to the end of a laid segment: what is before the rest, the gap and the text. -/
theorem length_upto {before gap : Text} {pos : Nat} {s : Segment} (hpos : length before = pos)
    (hstart : s.start = pos + length gap) (hstop : s.stop = s.start + length s.text) :
    length (before ++ gap ++ s.text) = s.stop := by
  rw [length_append, length_append, hpos, hstop, hstart]

/-- Each laid segment says what the line says in its place. -/
theorem isSlice (before : Text) {t : Text} {segments : List Segment}
    (h : Laid (length before) t segments) :
    ∀ s ∈ segments, IsSlice (before ++ t) s.start s.stop s.text := by
  generalize hpos : length before = pos at h
  induction h generalizing before with
  | nil => simp
  | @cons pos gap rest s more hstart hstop hne hmore ih =>
    have hupto := length_upto hpos hstart hstop
    -- The segment stands behind the line so far and the gap; the others have it in their line so far.
    refine List.forall_mem_cons.2 ⟨⟨before ++ gap, rest, by simp, ?_, hupto⟩, ?_⟩
    · rw [length_append, hpos, hstart]
    · have hrest := ih _ hupto
      simpa using hrest

end Laid

/-! ### Fitting segments -/

/-- Segments that fit a line: each says what the line says between its ends, which are apart, and
    no two of them overlap. -/
structure Fits (line : Text) (segments : List Segment) : Prop where
  start_lt_stop : ∀ s ∈ segments, s.start < s.stop
  isSlice : ∀ s ∈ segments, IsSlice line s.start s.stop s.text
  disjoint : segments.Pairwise fun a b => a.stop ≤ b.start ∨ b.stop ≤ a.start

/-- Laid segments fit. -/
theorem Laid.fits {line : Text} {segments : List Segment} (h : Laid 0 line segments) :
    Fits line segments where
  start_lt_stop s hs := (h.le_start s hs).2
  isSlice := Laid.isSlice [] h
  disjoint := h.pairwise.imp Or.inl

namespace Fits

variable {line : Text} {segments : List Segment}

/-- Whether segments fit does not depend on their order. -/
theorem perm (h : Fits line segments) {others : List Segment} (hperm : others.Perm segments) :
    Fits line others where
  start_lt_stop s hs := h.start_lt_stop s (hperm.mem_iff.1 hs)
  isSlice s hs := h.isSlice s (hperm.mem_iff.1 hs)
  disjoint := (hperm.pairwise_iff fun h => h.symm).2 h.disjoint

/-- Fitting segments that are sorted by their starts lie one behind the other. -/
theorem pairwise_of_sorted (h : Fits line segments)
    (hsorted : segments.Pairwise fun a b => a.start ≤ b.start) :
    segments.Pairwise fun a b => a.stop ≤ b.start := by
  refine (h.disjoint.and hsorted).imp_of_mem fun {a b} ha hb hab => ?_
  -- The one with the smaller start cannot be the one behind, since both have characters.
  have ha' := h.start_lt_stop a ha
  have hb' := h.start_lt_stop b hb
  omega

/-- The rest of fitting segments fits. -/
theorem of_cons {s : Segment} (h : Fits line (s :: segments)) : Fits line segments where
  start_lt_stop x hx := h.start_lt_stop x (List.mem_cons_of_mem s hx)
  isSlice x hx := h.isSlice x (List.mem_cons_of_mem s hx)
  disjoint := h.disjoint.of_cons

/-- Segments that fit and lie one behind the other, none before the rest `t` of the line, are laid
    along that rest. -/
theorem laid (before : Text) {t : Text} (h : Fits (before ++ t) segments)
    (hbehind : segments.Pairwise fun a b => a.stop ≤ b.start)
    (hpos : ∀ s ∈ segments, length before ≤ s.start) : Laid (length before) t segments := by
  induction segments generalizing before t with
  | nil => exact .nil _ _
  | cons s more ih =>
    obtain ⟨upto, rest, hline, hstart, hstop⟩ := h.isSlice s List.mem_cons_self
    have hle : length before ≤ length upto := by
      rw [hstart]
      exact hpos s List.mem_cons_self
    -- The segment cuts the rest of the line into a gap, its own text and what is left.
    rw [List.append_assoc] at hline
    obtain ⟨gap, rfl, rfl⟩ := exists_append_of_length_le hline hle
    have hlt := h.start_lt_stop s List.mem_cons_self
    obtain ⟨hfirst, hrest⟩ := List.pairwise_cons.1 hbehind
    have hmore : Fits (before ++ gap ++ s.text ++ rest) more := by
      simpa using h.of_cons
    have htext : s.stop = s.start + length s.text := by
      rw [← hstop, ← hstart, length_append]
    refine .cons ?_ htext ?_ ?_
    · rw [← hstart, length_append]
    · rw [← length_pos_iff]
      omega
    · rw [← hstop]
      exact ih _ hmore hrest fun x hx => hstop ▸ hfirst x hx

end Fits

/-! ### The names of a line -/

/-- The segments of tokens are laid along the text that the tokens are found in. -/
theorem laid_tokensFrom (start : Nat) (t : Text) :
    Laid start t ((tokensFrom start t).map .ofToken) := by
  fun_induction tokensFrom start t with
  | case1 start => exact .nil start []
  -- The token stands at the cursor itself, with no gap before it.
  | case2 start c rest hbyte token ih =>
    have hne : token.text ≠ [] := textOf_ne_nil_of_hasByte hbyte
    have hlaid : Laid start ([] ++ (token.text ++ (run (c :: rest)).2)) (_ :: _) :=
      .cons (s := .ofToken token) rfl rfl hne ih
    rw [List.nil_append, textOf_run] at hlaid
    exact hlaid
  | case3 start c rest _ ih => exact .append [c] ih

/-- The tokens of a line are laid along it. -/
theorem laid_tokens (line : Text) : Laid 0 line ((tokens line).map .ofToken) := by
  rw [tokens_eq]
  exact laid_tokensFrom 0 line

/-- Tokens say what the line says in their place. -/
theorem isSlice_of_mem_tokens {line : Text} {token : Token} (h : token ∈ tokens line) :
    IsSlice line token.start token.stop token.text :=
  Laid.isSlice [] (laid_tokens line) (.ofToken token) (List.mem_map_of_mem h)

/-- Tokens have characters. -/
theorem start_lt_stop_of_mem_tokens {line : Text} {token : Token} (h : token ∈ tokens line) :
    token.start < token.stop :=
  ((laid_tokens line).le_start _ (List.mem_map_of_mem h)).2

/-- Tokens are in order, each behind the end of those before it. -/
theorem pairwise_tokens (line : Text) : (tokens line).Pairwise fun a b => a.stop ≤ b.start :=
  List.pairwise_map.1 (laid_tokens line).pairwise

/-- A text is cut at its last tab. -/
theorem append_of_splitLastTab? {t before rest : Text} (h : splitLastTab? t = some (before, rest)) :
    before ++ rest = t := by
  fun_induction splitLastTab? t generalizing before rest with
  | case1 => cases h
  | case2 c t front field hsplit ih =>
    cases h
    rw [List.cons_append, ih hsplit]
  | case3 t hsplit =>
    cases h
    rfl
  | case4 => cases h

/-- Only an end of a text is dropped, and all of it satisfies `p`. -/
theorem exists_dropTrailing_append (p : Char → Bool) (t : Text) :
    ∃ ends, Text.dropTrailing p t ++ ends = t ∧ ∀ c ∈ ends, p c = true := by
  fun_induction Text.dropTrailing p t with
  | case1 => exact ⟨[], rfl, fun _ hc => absurd hc List.not_mem_nil⟩
  | case2 c rest hdrop hc ih =>
    obtain ⟨ends, hends, hall⟩ := ih
    rw [hdrop, List.nil_append] at hends
    subst hends
    exact ⟨c :: ends, rfl, List.forall_mem_cons.2 ⟨hc, hall⟩⟩
  | case3 c rest hdrop _ ih =>
    obtain ⟨ends, hends, hall⟩ := ih
    rw [hdrop] at hends
    exact ⟨ends, by rw [← hends]; rfl, hall⟩
  | case4 c rest _ ih =>
    obtain ⟨ends, hends, hall⟩ := ih
    exact ⟨ends, by rw [List.cons_append, hends], hall⟩

/-- A text with a byte escape says something. -/
theorem ne_nil_of_hasByteEscape {t : Text} (h : hasByteEscape t = true) : t ≠ [] := by
  rintro rfl
  cases h

/-- The last field of a line stands in the line. -/
theorem laid_field {line : Text} {token : Token} (h : field? line = some token) :
    Laid 0 line [.ofToken token] := by
  unfold field? at h
  split at h
  · cases h
  · rename_i before rest hsplit
    obtain ⟨ends, hends, -⟩ := exists_dropTrailing_append isLineEnd rest
    simp only at h
    split at h
    · rename_i hescape
      obtain rfl := Option.some.inj h
      have hne := ne_nil_of_hasByteEscape hescape
      -- The line is what stands up to the last tab, the field and the line ends.
      have hline : before ++ (Text.dropTrailing isLineEnd rest ++ ends) = line := by
        rw [hends, append_of_splitLastTab? hsplit]
      rw [← hline]
      exact .cons (s := .ofToken ⟨length before, Text.dropTrailing isLineEnd rest⟩)
        (Nat.zero_add _).symm rfl hne (.nil _ ends)
    · cases h

/-- **Names are laid along their line.** -/
theorem laid_names (line : Text) : Laid 0 line (names line) := by
  unfold names
  split
  · rename_i token hfield
    exact laid_field hfield
  · exact laid_tokens line

/-- The names of a line are sorted. -/
theorem sortByStart_names (line : Text) : sortByStart (names line) = names line :=
  (laid_names line).sortByStart_eq

end WifiNames.Scan
