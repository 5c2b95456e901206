import WifiNames.Proofs.Utf8

namespace WifiNames.Utf8

/-!
# UTF-8 — cutting a text between characters

Cutting by bytes is total: it also answers for a place inside a character or behind the end.  Where
both ends of a cut fall between characters it answers with what stands there.

* `IsBoundary` — a place between two characters, or at an end.
* `IsSlice` — what stands between two such places.
* `isSlice_iff` — then it is what cutting by bytes answers.
-/

/-- The length of a text is the sum of the lengths of its parts. -/
@[simp] theorem length_append (a b : Text) : length (a ++ b) = length a + length b := by
  induction a with
  | nil => exact (Nat.zero_add _).symm
  | cons c a ih => rw [List.cons_append, length, length, ih, Nat.add_assoc]

theorem length_cons (c : Char) (t : Text) : length (c :: t) = c.utf8Size + length t := rfl

/-- Every character has a byte. -/
theorem length_eq_zero_iff {t : Text} : length t = 0 ↔ t = [] := by
  cases t with
  | nil => simp [length]
  | cons c t =>
    have hc := c.utf8Size_pos
    rw [length_cons]
    simp only [reduceCtorEq, iff_false]
    omega

/-- A text that says something has a byte. -/
theorem length_pos_iff {t : Text} : 0 < length t ↔ t ≠ [] := by
  rw [Nat.pos_iff_ne_zero, Ne, length_eq_zero_iff]

@[simp] theorem dropBytes_zero (t : Text) : dropBytes 0 t = t := by
  cases t <;> rfl

/-- A first part is dropped whole. -/
theorem dropBytes_length_append (a b : Text) : dropBytes (length a) (a ++ b) = b := by
  induction a with
  | nil => exact dropBytes_zero b
  | cons c a ih =>
    have hc := c.utf8Size_pos
    rw [List.cons_append, length_cons, dropBytes, if_neg (by omega), Nat.add_sub_cancel_left, ih]

/-- A first part is taken whole. -/
theorem takeBytes_length_append (a b : Text) : takeBytes (length a) (a ++ b) = a := by
  induction a with
  | nil =>
    cases b with
    | nil => rfl
    | cons c b =>
      have hc := c.utf8Size_pos
      -- No character fits into no bytes.
      rw [List.nil_append, takeBytes, if_neg (by simp only [length]; omega)]
  | cons c a ih =>
    rw [List.cons_append, length_cons, takeBytes, if_pos (by omega), Nat.add_sub_cancel_left, ih]

/-! ### Boundaries and slices -/

/-- Whether byte `n` of a text is where a character begins, or the end. -/
def IsBoundary (line : Text) (n : Nat) : Prop :=
  ∃ before after, line = before ++ after ∧ length before = n

/-- Whether `t` stands in a text between the bytes `start` and `stop`, neither of which falls
    inside a character or outside of the text. -/
def IsSlice (line : Text) (start stop : Nat) (t : Text) : Prop :=
  ∃ before after, line = before ++ t ++ after ∧ length before = start ∧
    length (before ++ t) = stop

/-- Of two beginnings of a text the longer one goes on after the shorter one. -/
theorem exists_append_of_length_le {a b x y : Text} (h : a ++ x = b ++ y)
    (hle : length a ≤ length b) : ∃ gap, b = a ++ gap ∧ x = gap ++ y := by
  rcases List.append_eq_append_iff.1 h with ⟨gap, hb, hx⟩ | ⟨gap, ha, hy⟩
  · exact ⟨gap, hb, hx⟩
  · -- It is no longer than `b` and begins with it, so nothing is left between them.
    have hgap : gap = [] := by
      rw [← length_eq_zero_iff]
      rw [ha, length_append] at hle
      omega
    subst hgap
    exact ⟨[], by simp [ha], by simp [hy]⟩

/-- A line is cut in one way at one place. -/
theorem append_inj_of_length_eq {a b x y : Text} (h : a ++ x = b ++ y)
    (hlen : length a = length b) : a = b ∧ x = y := by
  obtain ⟨gap, rfl, rfl⟩ := exists_append_of_length_le h (Nat.le_of_eq hlen)
  rw [length_append, Nat.left_eq_add, length_eq_zero_iff] at hlen
  subst hlen
  simp

/-- **Cutting between characters.** -/
theorem isSlice_iff {line t : Text} {start stop : Nat} :
    IsSlice line start stop t ↔
      start ≤ stop ∧ IsBoundary line start ∧ IsBoundary line stop ∧ slice start stop line = t := by
  constructor
  · rintro ⟨before, after, rfl, rfl, rfl⟩
    refine ⟨by simp, ⟨before, t ++ after, by simp, rfl⟩, ⟨before ++ t, after, rfl, rfl⟩, ?_⟩
    rw [slice, List.append_assoc, dropBytes_length_append, length_append,
      Nat.add_sub_cancel_left, takeBytes_length_append]
  · rintro ⟨hle, ⟨before, x, rfl, rfl⟩, ⟨upto, after, hline, rfl⟩, rfl⟩
    -- The beginning up to the second place goes on after the one up to the first.
    obtain ⟨gap, rfl, rfl⟩ := exists_append_of_length_le hline hle
    rw [slice, dropBytes_length_append, length_append, Nat.add_sub_cancel_left,
      takeBytes_length_append]
    exact ⟨before, after, by simp, rfl, length_append _ _⟩

end WifiNames.Utf8
