import WifiNames.Proofs.Converter
import WifiNames.Proofs.Utf8.Boundary

namespace WifiNames.Converter

/-!
# Converters — the longest beginning that may be kept

A decoded name is cut twice, before its first NUL and to the capacity.  Together the two cuts keep
the longest beginning without a NUL that fits, whatever decoder the text comes from.

* `IsKept` — a beginning that may be kept, and could not go on.
* `IsKept.longest` — nothing else that may be kept goes further.
* `isKept_shown` — the two cuts keep it.
* `convertsLongest` — **what a converter answers**, with any library of decoders.
-/

/-- What may be kept of a decoded name with a given capacity, and cannot be longer. -/
structure IsKept (capacity : Nat) (decoded kept : Text) : Prop where
  /-- It ends between two characters. -/
  isPrefix : kept <+: decoded
  nul_notMem : '\x00' ∉ kept
  length_le : (Utf8.encode kept).length ≤ capacity
  /-- It ends where the text does, before a NUL, or before a character that there is no room for. -/
  stops : kept = decoded ∨ ∃ next rest, decoded = kept ++ next :: rest ∧
    (next = '\x00' ∨ capacity < (Utf8.encode (kept ++ [next])).length)

/-- **The longest beginning.** Nothing else that may be kept goes further. -/
theorem IsKept.longest {capacity : Nat} {decoded kept p : Text} (h : IsKept capacity decoded kept)
    (hp : p <+: decoded) (hnul : '\x00' ∉ p) (hlen : (Utf8.encode p).length ≤ capacity) :
    p <+: kept := by
  -- Of two beginnings of one text one goes further; suppose that it is `p`.
  rcases List.prefix_or_prefix_of_prefix hp h.isPrefix with hshort | ⟨more, rfl⟩
  · exact hshort
  cases more with
  | nil => exact ⟨[], by simp⟩
  | cons x more =>
    rcases h.stops with rfl | ⟨next, rest, hdecoded, hstops⟩
    · exact hp
    · -- What comes next in the text is the character that `p` has after `kept`.
      obtain ⟨after, hafter⟩ := hp
      rw [hdecoded, List.append_assoc, List.append_cancel_left_eq] at hafter
      obtain ⟨rfl, -⟩ := List.cons.inj hafter
      rcases hstops with rfl | hroom
      · exact absurd (by simp) hnul
      · -- There was no room for `x` after `kept`, but `p` has it and fits.
        have hpart : kept ++ [x] <+: kept ++ x :: more := ⟨more, by simp⟩
        have hle := (Utf8.encode_isPrefix hpart).length_le
        omega

/-- **Two cuts.** What a converter shows of a decoded name is what may be kept of it. -/
theorem isKept_shown (c : Converter) (t : Text) : IsKept c.capacity t (c.shown t) := by
  have hshown : c.shown t = Utf8.takeBytes c.capacity (beforeNul t) :=
    Utf8.truncate_eq_takeBytes c.capacity (beforeNul t)
  have hcut : c.shown t <+: beforeNul t := Utf8.truncate_isPrefix c.capacity (beforeNul t)
  refine ⟨hcut.trans (beforeNul_isPrefix t), ?_, ?_, ?_⟩
  · intro hnul
    exact notMem_takeWhile_ne '\x00' t (hcut.subset hnul)
  · rw [Utf8.length_encode, hshown]
    exact Utf8.length_takeBytes_le c.capacity (beforeNul t)
  · rcases Utf8.takeBytes_stops c.capacity (beforeNul t) with hall | ⟨next, rest, hnext, hroom⟩
    · -- The capacity cuts nothing off, so only a NUL can.
      rw [hshown, hall]
      rcases takeWhile_ne_eq_or '\x00' t with hwhole | ⟨rest, hrest⟩
      · exact Or.inl hwhole
      · exact Or.inr ⟨'\x00', rest, hrest, Or.inl rfl⟩
    · -- The capacity stops before a character, which comes next in the whole text too.
      obtain ⟨after, hafter⟩ := beforeNul_isPrefix t
      rw [hshown]
      refine Or.inr ⟨next, rest ++ after, ?_, Or.inr ?_⟩
      · rw [← List.cons_append, ← List.append_assoc, ← hnext, hafter]
      · rw [Utf8.length_encode]
        exact hroom

/-! ### Answers -/

/-- What a converter has to answer, with the decoders that `decoder?` has for labels. -/
structure ConvertsLongest (decoder? : String → Option Decoder) (c : Converter) (raw : Bytes)
    (answer : Except ConversionError Bytes) : Prop where
  /-- It has no decoder exactly if the label is not known. -/
  unavailable_iff : answer = .error (.unavailable c.charset) ↔ decoder? c.charset = none
  /-- Otherwise it refuses the name exactly if the decoder does, and says how long the name is. -/
  invalidInput_iff : ∀ decoder, decoder? c.charset = some decoder →
    (answer = .error (.invalidInput c.charset raw.length) ↔ decoder.decode? raw = none)
  /-- Otherwise it answers with the longest beginning of the decoded text that may be kept. -/
  eq_ok : ∀ decoder decoded, decoder? c.charset = some decoder →
    decoder.decode? raw = some decoded →
    ∃ kept, answer = .ok (Utf8.encode kept) ∧ IsKept c.capacity decoded kept ∧
      ∀ p, p <+: decoded → '\x00' ∉ p → (Utf8.encode p).length ≤ c.capacity → p <+: kept
  /-- Where the text before the first NUL is too long, the search for a boundary ends at one, not
      below the first byte, and that is where the text is cut. -/
  search : ∀ decoder decoded, decoder? c.charset = some decoder →
    decoder.decode? raw = some decoded → c.capacity < Utf8.length (beforeNul decoded) →
    ∃ stop ≤ c.capacity, Utf8.lastBoundary? (beforeNul decoded) c.capacity = some stop ∧
      Utf8.IsBoundary (beforeNul decoded) stop ∧
      ∃ u, answer = .ok u ∧ u.length = stop ∧ u <+: Utf8.encode (beforeNul decoded)
  /-- A larger capacity only adds to the answer. -/
  mono : ∀ capacity u, c.capacity ≤ capacity → answer = .ok u →
    ∃ more, (({ c with capacity := capacity } : Converter).toUtf8With decoder? raw).value
      = .ok (u ++ more)

/-- With more room at least as much is shown. -/
theorem shown_isPrefix {c d : Converter} (h : c.capacity ≤ d.capacity) (t : Text) :
    c.shown t <+: d.shown t := by
  have hkept := isKept_shown c t
  exact (isKept_shown d t).longest hkept.isPrefix hkept.nul_notMem
    (Nat.le_trans hkept.length_le h)

/-- **What a converter answers**, for every label and capacity and every name, and whatever decoders
    the labels have: the longest beginning of the decoded text that has no NUL and fits. -/
theorem convertsLongest (decoder? : String → Option Decoder) (c : Converter) (raw : Bytes) :
    ConvertsLongest decoder? c raw (c.toUtf8With decoder? raw).value := by
  have hvalue := value_toUtf8With decoder? c raw
  refine ⟨?_, ?_, ?_, ?_, ?_⟩
  · rw [hvalue]
    cases decoder? c.charset with
    | none => simp
    | some decoder => cases hdecode : decoder.decode? raw <;> simp [hdecode]
  · intro decoder hdecoder
    rw [hvalue, hdecoder]
    cases hdecode : decoder.decode? raw <;> simp [hdecode]
  · intro decoder decoded hdecoder hdecode
    have hkept := isKept_shown c decoded
    refine ⟨c.shown decoded, ?_, hkept, ?_⟩
    · simp only [hvalue, hdecoder, hdecode]
    · intro p hp hnul hlen
      exact hkept.longest hp hnul hlen
  · intro decoder decoded hdecoder hdecode hlong
    -- The search finds a boundary, and `truncate` cuts where the search ends.
    obtain ⟨stop, hsearch, hle, hstop, -⟩ :=
      Utf8.exists_lastBoundary? (beforeNul decoded) c.capacity
    obtain ⟨-, hlen⟩ := Utf8.truncate_of_lastBoundary? hlong hsearch
    refine ⟨stop, hle, hsearch, Utf8.isBoundary_iff.1 hstop, Utf8.encode (c.shown decoded), ?_⟩
    refine ⟨?_, ?_, ?_⟩
    · simp only [hvalue, hdecoder, hdecode]
    · rw [Utf8.length_encode]
      exact hlen
    · exact Utf8.encode_isPrefix (Utf8.truncate_isPrefix c.capacity (beforeNul decoded))
  · -- Only a text that was decoded gives an answer, and its kept part grows with the capacity.
    intro capacity u hle hu
    rw [hvalue] at hu
    rw [value_toUtf8With]
    cases hdecoder : decoder? c.charset with
    | none =>
      rw [hdecoder] at hu
      cases hu
    | some decoder =>
      rw [hdecoder] at hu
      cases hdecode : decoder.decode? raw with
      | none =>
        simp only [hdecode] at hu
        cases hu
      | some decoded =>
        simp only [hdecode] at hu ⊢
        cases hu
        obtain ⟨more, hmore⟩ := Utf8.encode_isPrefix
          (shown_isPrefix (d := { c with capacity := capacity }) hle decoded)
        exact ⟨more, by rw [hmore]⟩

end WifiNames.Converter
