import Mathlib.Data.List.Chain
import WifiNames.Proofs.Layout

namespace WifiNames.Scan

open Utf8

/-!
# Tiling — a line and its segments

The segments of a whole line are the given ones and a plain one for each gap between them.  They
cover the line without overlap, so that the line can be put together from them again.

* `Tile` — a given segment or a gap.
* `IsTiling` — tiles that cover a stretch of a line.
* `exists_isTiling_fillGaps` — **the cursor**: segments laid along the rest of a line are completed
  to a tiling of that rest.
* `complete_isTiling` — what is made of any fitting segments, and of the names of any line.
-/

/-! ### Tiles -/

/-- What a line is covered with. -/
inductive Tile where
  /-- What lies between two segments, or between a segment and an end of the line. -/
  | gap (start stop : Nat)
  | given (s : Segment)

namespace Tile

/-- The segment of a tile; that of a gap is plain. -/
def segment (line : Text) : Tile → Segment
  | gap start stop => .plain start stop (slice start stop line)
  | given s => s

/-- The given segment of a tile. -/
def given? : Tile → Option Segment
  | gap .. => none
  | given s => some s

/-- Whether a tile is a gap. -/
def IsGap : Tile → Prop
  | gap .. => True
  | given _ => False

end Tile

/-- Segments that follow one another from `start` to `stop`. -/
def Contiguous : Nat → Nat → List Segment → Prop
  | start, stop, [] => start = stop
  | start, stop, s :: more => s.start = start ∧ Contiguous s.stop stop more

/-- Tiles that cover the end `t` of a line, which begins at byte `pos`. -/
structure IsTiling (line : Text) (pos : Nat) (t : Text) (given : List Segment)
    (tiles : List Tile) : Prop where
  /-- Each tile starts where the one before it stops. -/
  contiguous : Contiguous pos (length line) (tiles.map (Tile.segment line))
  /-- Each tile says what the line says in its place, and is cut between characters. -/
  isSlice : ∀ s ∈ tiles.map (Tile.segment line), IsSlice line s.start s.stop s.text
  flatMap_text : (tiles.map (Tile.segment line)).flatMap Segment.text = t
  /-- The tiles that are no gaps are the given segments as they are, each of them once. -/
  given_perm : (tiles.filterMap Tile.given?).Perm given
  /-- No gap is next to another one. -/
  gaps_apart : tiles.IsChain fun a b => ¬ (a.IsGap ∧ b.IsGap)

namespace IsTiling

variable {line rest : Text} {given : List Segment} {tiles : List Tile}

/-- The end of a line is covered by nothing. -/
theorem nil (line : Text) : IsTiling line (length line) [] [] [] where
  contiguous := rfl
  isSlice := by simp
  flatMap_text := rfl
  given_perm := .refl []
  gaps_apart := .nil

/-- A given segment in front. -/
theorem cons_given {s : Segment} (hs : IsSlice line s.start s.stop s.text)
    (h : IsTiling line s.stop rest given tiles) :
    IsTiling line s.start (s.text ++ rest) (s :: given) (.given s :: tiles) where
  contiguous := ⟨rfl, h.contiguous⟩
  isSlice := List.forall_mem_cons.2 ⟨hs, h.isSlice⟩
  flatMap_text := by
    rw [List.map_cons, List.flatMap_cons, h.flatMap_text]
    rfl
  given_perm := h.given_perm.cons s
  gaps_apart := by
    rw [List.isChain_cons]
    exact ⟨fun _ _ hgap => hgap.1, h.gaps_apart⟩

/-- The segment of a gap says what stands in the gap. -/
theorem segment_gap {start stop : Nat} {t : Text} (ht : IsSlice line start stop t) :
    (Tile.gap start stop).segment line = .plain start stop t := by
  rw [Tile.segment, (isSlice_iff.1 ht).2.2.2]

/-- A gap in front of a tile that is none. -/
theorem cons_gap {start stop : Nat} {t : Text} (ht : IsSlice line start stop t)
    (h : IsTiling line stop rest given tiles) (hfirst : ∀ a ∈ tiles.head?, ¬ a.IsGap) :
    IsTiling line start (t ++ rest) given (.gap start stop :: tiles) where
  contiguous := ⟨rfl, h.contiguous⟩
  isSlice := by
    rw [List.map_cons, segment_gap ht]
    exact List.forall_mem_cons.2 ⟨ht, h.isSlice⟩
  flatMap_text := by
    rw [List.map_cons, List.flatMap_cons, h.flatMap_text, segment_gap ht]
    rfl
  given_perm := h.given_perm
  gaps_apart := by
    rw [List.isChain_cons]
    exact ⟨fun a ha hgap => hfirst a ha hgap.2, h.gaps_apart⟩

end IsTiling

/-! ### The cursor -/

/-- **The cursor.** Segments laid along the end of a line are completed by gaps that are not
    empty. -/
theorem exists_isTiling_fillGaps (before : Text) {t : Text} {segments : List Segment}
    (h : Laid (length before) t segments) :
    ∃ tiles, fillGaps (before ++ t) (length before) segments =
        tiles.map (Tile.segment (before ++ t)) ∧
      IsTiling (before ++ t) (length before) t segments tiles ∧
      ∀ start stop, .gap start stop ∈ tiles → start < stop := by
  -- The induction moves the cursor, so the text before it has to vary.
  generalize hpos : length before = pos at h
  induction h generalizing before with
  | nil pos rest =>
    by_cases hrest : rest = []
    · subst hrest hpos
      rw [List.append_nil]
      refine ⟨[], ?_, .nil before, by simp⟩
      rw [fillGaps, if_neg (Nat.lt_irrefl _)]
      rfl
    · -- Something is left behind the last segment, which makes one more gap.
      have hlt : pos < length (before ++ rest) := by
        have hlength := length_pos_iff.2 hrest
        rw [length_append]
        omega
      have hslice : IsSlice (before ++ rest) pos (length (before ++ rest)) rest :=
        ⟨before, [], by simp, hpos, rfl⟩
      refine ⟨[.gap pos (length (before ++ rest))], ?_, ?_, ?_⟩
      · rw [List.map_singleton, IsTiling.segment_gap hslice, fillGaps, if_pos hlt, ← hpos,
          dropBytes_length_append]
      · have htiling := IsTiling.cons_gap hslice (.nil (before ++ rest)) (by simp)
        rwa [List.append_nil] at htiling
      · intro start stop hmem
        cases List.mem_singleton.1 hmem
        exact hlt
  | @cons pos gap rest s more hstart hstop hne hmore ih =>
    have hupto := Laid.length_upto hpos hstart hstop
    have hline : before ++ gap ++ s.text ++ rest = before ++ (gap ++ (s.text ++ rest)) := by simp
    obtain ⟨tiles, hfill, htiling, hlt⟩ := ih _ hupto
    rw [hline] at hfill htiling
    have hslice : IsSlice (before ++ (gap ++ (s.text ++ rest))) s.start s.stop s.text :=
      ⟨before ++ gap, rest, hline.symm, by rw [length_append]; omega, hupto⟩
    have hgiven := htiling.cons_given hslice
    by_cases hgap : gap = []
    · -- The segment begins where the cursor stands.
      subst hgap
      obtain rfl : pos = s.start := hstart.symm
      refine ⟨.given s :: tiles, ?_, hgiven, ?_⟩
      · rw [fillGaps, if_neg (Nat.lt_irrefl _), hfill]
        rfl
      · intro start stop hmem
        rcases List.mem_cons.1 hmem with heq | hmem
        · cases heq
        · exact hlt start stop hmem
    · have hlength := length_pos_iff.2 hgap
      have hbefore : IsSlice (before ++ (gap ++ (s.text ++ rest))) pos s.start gap :=
        ⟨before, s.text ++ rest, by simp, hpos, by rw [length_append]; omega⟩
      refine ⟨.gap pos s.start :: .given s :: tiles, ?_, ?_, ?_⟩
      · rw [fillGaps, if_pos (by omega), hfill]
        rfl
      · -- Behind a gap comes a given segment, so no two gaps are next to each other.
        refine hgiven.cons_gap hbefore fun a ha => ?_
        cases ha
        exact not_false
      · intro start stop hmem
        rcases List.mem_cons.1 hmem with heq | hmem
        · cases heq
          omega
        · rcases List.mem_cons.1 hmem with heq | hmem
          · cases heq
          · exact hlt start stop hmem

/-! ### Whole lines -/

/-- Fitting segments are laid along their line once they are sorted. -/
theorem Fits.laid_sortByStart {line : Text} {segments : List Segment} (h : Fits line segments) :
    Laid 0 line (sortByStart segments) := by
  have hfits : Fits line (sortByStart segments) := h.perm (List.mergeSort_perm _ _)
  have hsorted : (sortByStart segments).Pairwise fun a b => a.start ≤ b.start := by
    have htrans (a b c : Segment) : decide (a.start ≤ b.start) = true →
        decide (b.start ≤ c.start) = true → decide (a.start ≤ c.start) = true := by
      simpa using Nat.le_trans
    have htotal (a b : Segment) :
        (decide (a.start ≤ b.start) || decide (b.start ≤ a.start)) = true := by
      simpa using Nat.le_total _ _
    have hpairwise := List.pairwise_mergeSort htrans htotal segments
    unfold sortByStart
    simpa using hpairwise
  exact Fits.laid [] hfits (hfits.pairwise_of_sorted hsorted) fun _ _ => Nat.zero_le _

/-- The segments of a line without given ones. -/
theorem complete_nil (line : Text) : complete line [] = [.plain 0 (length line) line] := rfl

/-- Fitting segments are completed to a tiling; a gap in it is empty only if there is nothing to
    cover. -/
theorem Fits.exists_isTiling {line : Text} {segments : List Segment} (h : Fits line segments) :
    ∃ tiles, complete line segments = tiles.map (Tile.segment line) ∧
      IsTiling line 0 line segments tiles ∧
      ∀ start stop, .gap start stop ∈ tiles → start < stop ∨ line = [] ∧ segments = [] := by
  by_cases hnil : segments = []
  · subst hnil
    -- Without given segments the whole line is one gap, and that is empty if the line is.
    have hslice : IsSlice line 0 (length line) line := ⟨[], [], by simp, rfl, rfl⟩
    refine ⟨[.gap 0 (length line)], ?_, ?_, ?_⟩
    · rw [List.map_singleton, IsTiling.segment_gap hslice, complete_nil]
    · have htiling := IsTiling.cons_gap hslice (.nil line) (by simp)
      rwa [List.append_nil] at htiling
    · intro start stop hmem
      cases List.mem_singleton.1 hmem
      rcases Nat.eq_zero_or_pos (length line) with hzero | hpos
      · exact Or.inr ⟨length_eq_zero_iff.1 hzero, rfl⟩
      · exact Or.inl hpos
  · obtain ⟨tiles, hfill, htiling, hlt⟩ :=
      exists_isTiling_fillGaps [] h.laid_sortByStart
    refine ⟨tiles, ?_, ?_, fun start stop hmem => Or.inl (hlt start stop hmem)⟩
    · rw [complete, if_neg (by simpa using hnil)]
      exact hfill
    · exact { htiling with
        given_perm := htiling.given_perm.trans (List.mergeSort_perm _ _) }

/-- **Lossless tiling.**  Fitting segments, in any order, are completed to a tiling of their line:
    one behind the other from its start to its end, each cut between characters and saying what the
    line says there, the given ones as they are, and gaps that are neither empty nor next to each
    other.  Without given segments the whole line is one gap, the only one that can be empty.  The
    names of a line always fit and are sorted, so every line is put together again from them. -/
theorem complete_isTiling {line : Text} {segments : List Segment} (h : Fits line segments) :
    (∃ tiles, complete line segments = tiles.map (Tile.segment line) ∧
      IsTiling line 0 line segments tiles ∧
      ∀ start stop, .gap start stop ∈ tiles → start < stop ∨ line = [] ∧ segments = []) ∧
    complete line [] = [.plain 0 (length line) line] ∧
    Fits line (names line) ∧ sortByStart (names line) = names line ∧
    (∀ s ∈ complete line (names line), IsSlice line s.start s.stop s.text) ∧
    (complete line (names line)).flatMap Segment.text = line := by
  -- The names of a line are laid along it, so they fit.
  have hnames : Fits line (names line) := (laid_names line).fits
  obtain ⟨tiles, hcomplete, htiling, -⟩ := hnames.exists_isTiling
  refine ⟨h.exists_isTiling, complete_nil line, hnames, sortByStart_names line, ?_, ?_⟩
  · rw [hcomplete]
    exact htiling.isSlice
  · rw [hcomplete]
    exact htiling.flatMap_text

/-- Two segments given from right to left, in a text with a character of three bytes. -/
theorem complete_isTiling_swapped :
    let line : Text := ['a', '中', 'b', 'c']
    let b : Segment := .plain 4 5 ['b']
    let a : Segment := ⟨0, 1, ['a'], some [0x61], true, some ['x']⟩
    Fits line [b, a] ∧ complete line [b, a] = [a, .plain 1 4 ['中'], b, .plain 5 6 ['c']] ∧
      ∃ tiles, [a, .plain 1 4 ['中'], b, .plain 5 6 ['c']] = tiles.map (Tile.segment line) ∧
        IsTiling line 0 line [b, a] tiles := by
  intro line b a
  have hb : IsSlice line b.start b.stop b.text := ⟨['a', '中'], ['c'], rfl, by decide, by decide⟩
  have ha : IsSlice line a.start a.stop a.text := ⟨[], ['中', 'b', 'c'], rfl, by decide, by decide⟩
  have hfits : Fits line [b, a] :=
    { start_lt_stop := by decide
      isSlice := by simp [hb, ha]
      disjoint := by decide }
  -- Merge sort does not reduce, so it is unfolded here.
  have hsort : sortByStart [b, a] = [a, b] := by
    unfold sortByStart
    simp [List.mergeSort, List.MergeSort.Internal.splitInTwo, a, b, Segment.plain]
  have hfill : fillGaps line 0 [a, b] = [a, .plain 1 4 ['中'], b, .plain 5 6 ['c']] := by
    decide
  have hcomplete : complete line [b, a] = [a, .plain 1 4 ['中'], b, .plain 5 6 ['c']] := by
    rw [← hfill, ← hsort]
    rfl
  obtain ⟨⟨tiles, htiles, htiling, -⟩, -⟩ := complete_isTiling hfits
  exact ⟨hfits, hcomplete, tiles, hcomplete ▸ htiles, htiling⟩

end WifiNames.Scan
