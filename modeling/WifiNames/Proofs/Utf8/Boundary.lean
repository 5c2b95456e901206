import WifiNames.Proofs.Utf8.Slice

namespace WifiNames.Utf8

/-!
# UTF-8 — where a text is cut

A text that is too long is cut at the last boundary within its budget, and that boundary is found by
going back byte by byte.  The cut leaves the longest beginning that fits.

* `isBoundary_iff` — the search asks for boundaries indeed.
* `exists_lastBoundary?` — **the search ends** at a boundary, and never passes the first byte.
* `length_takeBytes_le`, `isPrefix_takeBytes`, `takeBytes_stops` — `takeBytes` takes the longest
  beginning that fits.
* `truncate_eq_takeBytes` — so does `truncate`, with its search.
* `truncate_of_lastBoundary?` — where it cuts, the search ended.
-/

/-! ### Beginnings of a text -/

/-- A beginning is no longer than the whole. -/
theorem length_le_of_isPrefix {p t : Text} (h : p <+: t) : length p ≤ length t := by
  obtain ⟨rest, rfl⟩ := h
  rw [length_append]
  omega

/-- A beginning that is as long as the whole is the whole. -/
theorem eq_of_isPrefix_of_length_le {p t : Text} (h : p <+: t) (hlen : length t ≤ length p) :
    p = t := by
  obtain ⟨rest, rfl⟩ := h
  rw [length_append] at hlen
  have hrest : rest = [] := length_eq_zero_iff.1 (by omega)
  rw [hrest, List.append_nil]

/-- What is encoded first comes first. -/
theorem encode_isPrefix {p t : Text} (h : p <+: t) : encode p <+: encode t := by
  obtain ⟨rest, rfl⟩ := h
  exact ⟨encode rest, (encode_append p rest).symm⟩

/-! ### Boundaries -/

@[simp] theorem isBoundary_zero (t : Text) : isBoundary t 0 = true := by
  cases t <;> rfl

/-- **Boundaries.** The test is true of the places between characters and of both ends. -/
theorem isBoundary_iff {t : Text} {n : Nat} : isBoundary t n = true ↔ IsBoundary t n := by
  induction t generalizing n with
  | nil =>
    cases n with
    | zero => exact iff_of_true rfl ⟨[], [], rfl, rfl⟩
    | succ n =>
      simp only [isBoundary, Bool.false_eq_true, false_iff]
      rintro ⟨before, after, happend, hlen⟩
      rw [(List.append_eq_nil_iff.1 happend.symm).1] at hlen
      cases hlen
  | cons c rest ih =>
    cases n with
    | zero => exact iff_of_true (isBoundary_zero _) ⟨[], c :: rest, rfl, rfl⟩
    | succ n =>
      rw [isBoundary, Bool.and_eq_true, decide_eq_true_eq, ih]
      constructor
      · rintro ⟨hc, before, after, rfl, hlen⟩
        refine ⟨c :: before, after, rfl, ?_⟩
        rw [length_cons]
        omega
      · rintro ⟨before, after, happend, hlen⟩
        cases before with
        -- Only the start of a text is behind nothing.
        | nil => cases hlen
        | cons d before =>
          obtain ⟨rfl, rfl⟩ := List.cons.inj happend
          rw [length_cons] at hlen
          exact ⟨by omega, before, after, rfl, by omega⟩

/-- The length of a beginning is a boundary. -/
theorem isBoundary_length_of_isPrefix {p t : Text} (h : p <+: t) :
    isBoundary t (length p) = true := by
  obtain ⟨rest, rfl⟩ := h
  exact isBoundary_iff.2 ⟨p, rest, rfl, rfl⟩

/-! ### The search -/

/-- **The search ends.** From any byte it goes back to a boundary, the first one on its way, and
    does not pass the first byte of the text. -/
theorem exists_lastBoundary? (t : Text) (n : Nat) :
    ∃ stop, lastBoundary? t n = some stop ∧ stop ≤ n ∧ isBoundary t stop = true ∧
      ∀ k, stop < k → k ≤ n → isBoundary t k = false := by
  induction n with
  | zero =>
    refine ⟨0, ?_, Nat.le_refl 0, isBoundary_zero t, ?_⟩
    · rw [lastBoundary?, isBoundary_zero, if_pos rfl]
    · intro k hlo hhi
      omega
  | succ n ih =>
    -- The search stays here, or goes one byte back.
    by_cases h : isBoundary t (n + 1) = true
    · refine ⟨n + 1, ?_, Nat.le_refl _, h, ?_⟩
      · rw [lastBoundary?, if_pos h]
      · intro k hlo hhi
        omega
    · obtain ⟨stop, hsearch, hle, hstop, hlast⟩ := ih
      refine ⟨stop, ?_, Nat.le_succ_of_le hle, hstop, ?_⟩
      · rw [lastBoundary?, if_neg h, hsearch]
      · intro k hlo hhi
        by_cases hk : k = n + 1
        · rw [hk]
          exact Bool.eq_false_iff.2 h
        · exact hlast k hlo (by omega)

/-! ### The longest beginning that fits -/

theorem length_takeBytes_le (n : Nat) (t : Text) : length (takeBytes n t) ≤ n := by
  induction t generalizing n with
  | nil => exact Nat.zero_le n
  | cons c rest ih =>
    rw [takeBytes]
    split
    · have hrest := ih (n - c.utf8Size)
      rw [length_cons]
      omega
    · exact Nat.zero_le n

/-- Every beginning that fits is part of what is taken. -/
theorem isPrefix_takeBytes {n : Nat} {p t : Text} (hp : p <+: t) (hlen : length p ≤ n) :
    p <+: takeBytes n t := by
  obtain ⟨rest, rfl⟩ := hp
  induction p generalizing n with
  | nil => exact List.nil_prefix
  | cons c p ih =>
    rw [length_cons] at hlen
    rw [List.cons_append, takeBytes, if_pos (by omega)]
    exact (List.prefix_cons_inj c).2 (ih (by omega))

/-- What comes after the part that is taken does not fit. -/
theorem takeBytes_stops (n : Nat) (t : Text) :
    takeBytes n t = t ∨ ∃ next rest, t = takeBytes n t ++ next :: rest ∧
      n < length (takeBytes n t ++ [next]) := by
  obtain ⟨rest, hrest⟩ := takeBytes_isPrefix n t
  cases rest with
  | nil =>
    rw [List.append_nil] at hrest
    exact Or.inl hrest
  | cons next rest =>
    refine Or.inr ⟨next, rest, hrest.symm, ?_⟩
    -- If one more character did fit, it would have been taken.
    refine Nat.lt_of_not_le fun hfits => ?_
    have hnext : takeBytes n t ++ [next] <+: t := ⟨rest, by rw [List.append_assoc]; exact hrest⟩
    have hlen := length_le_of_isPrefix (isPrefix_takeBytes hnext hfits)
    have hpos := next.utf8Size_pos
    rw [length_append, length_cons] at hlen
    omega

/-! ### Truncating -/

/-- Where the search is needed, the text is cut at the boundary that it found. -/
theorem truncate_of_lastBoundary? {n stop : Nat} {t : Text} (hlong : n < length t)
    (hsearch : lastBoundary? t n = some stop) :
    truncate n t = takeBytes stop t ∧ length (truncate n t) = stop := by
  have htruncate : truncate n t = takeBytes stop t := by
    rw [truncate, if_neg (by omega), hsearch]
  -- There is one answer to the search, and that is a boundary.
  have hstop : isBoundary t stop = true := by
    obtain ⟨found, hfound, -, hboundary, -⟩ := exists_lastBoundary? t n
    rw [hsearch] at hfound
    cases hfound
    exact hboundary
  obtain ⟨before, after, rfl, hlen⟩ := isBoundary_iff.1 hstop
  refine ⟨htruncate, ?_⟩
  rw [htruncate, ← hlen, takeBytes_length_append]

/-- **Truncating takes the longest beginning that fits.** -/
theorem truncate_eq_takeBytes (n : Nat) (t : Text) : truncate n t = takeBytes n t := by
  by_cases hfits : length t ≤ n
  · rw [truncate_eq_self hfits, takeBytes_eq_self hfits]
  · obtain ⟨stop, hsearch, hle, -, hlast⟩ := exists_lastBoundary? t n
    obtain ⟨-, hlen⟩ := truncate_of_lastBoundary? (by omega) hsearch
    have hpart : truncate n t <+: takeBytes n t :=
      isPrefix_takeBytes (truncate_isPrefix n t) (by omega)
    apply eq_of_isPrefix_of_length_le hpart
    -- What is taken ends at a boundary too, so the search would have met it on its way.
    refine Nat.le_of_not_lt fun hlonger => ?_
    have hboundary := isBoundary_length_of_isPrefix (takeBytes_isPrefix n t)
    rw [hlast _ (by omega) (length_takeBytes_le n t)] at hboundary
    cases hboundary

end WifiNames.Utf8
