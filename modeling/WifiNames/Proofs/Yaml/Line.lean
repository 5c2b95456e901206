import WifiNames.Yaml.Token
import WifiNames.Yaml.Writer

namespace WifiNames.Yaml

/-!
# Lines — where the next field begins

Whatever a scalar is written like, it ends where the next line is indented less.

* `exists_span`, `span_append` — the part of a text before the first character of a kind.
* `isNameChar` — the characters of names; `ne_of_isNameChar` tells them from all others.
* `indentation`, `content` — the spaces before a line, and the line without them.
* `IsLine` — a line that begins with a name, or the end of the text.
-/

/-! ### Spans -/

/-- Every text is divided where a condition fails first. -/
theorem exists_span (p : Char → Bool) (t : Text) :
    ∃ front back, t = front ++ back ∧ (∀ c ∈ front, p c = true) ∧
      ∀ c ∈ back.head?, p c = false := by
  refine ⟨t.takeWhile p, t.dropWhile p, List.takeWhile_append_dropWhile.symm, ?_, ?_⟩
  · exact List.all_eq_true.1 List.all_takeWhile
  · intro c hc
    have hhead := List.head?_dropWhile_not p t
    rw [Option.mem_def] at hc
    rwa [hc] at hhead

/-- Where a text is divided so, taking and dropping find the place. -/
theorem span_append {p : Char → Bool} {front back : Text} (hfront : ∀ c ∈ front, p c = true)
    (hback : ∀ c ∈ back.head?, p c = false) :
    (front ++ back).takeWhile p = front ∧ (front ++ back).dropWhile p = back := by
  rw [List.takeWhile_append_of_pos hfront, List.dropWhile_append_of_pos hfront]
  -- The back begins with a character that fails, or is empty.
  cases back with
  | nil => exact ⟨List.append_nil front, rfl⟩
  | cons c back => simp [hback c rfl]

/-- There is one place only. -/
theorem span_unique {p : Char → Bool} {a b c d : Text} (h : a ++ b = c ++ d)
    (ha : ∀ x ∈ a, p x = true) (hb : ∀ x ∈ b.head?, p x = false)
    (hc : ∀ x ∈ c, p x = true) (hd : ∀ x ∈ d.head?, p x = false) : a = c ∧ b = d := by
  obtain ⟨htake, hdrop⟩ := span_append ha hb
  obtain ⟨htake', hdrop'⟩ := span_append hc hd
  rw [h] at htake hdrop
  exact ⟨htake.symm.trans htake', hdrop.symm.trans hdrop'⟩

/-! ### Names -/

/-- The characters of the names of fields, and of the words and numbers in them. -/
def isNameChar (c : Char) : Bool :=
  let n := c.toNat
  (0x30 ≤ n && n ≤ 0x39) || (0x41 ≤ n && n ≤ 0x5A) || n == 0x5F || (0x61 ≤ n && n ≤ 0x7A)

theorem ne_of_isNameChar {c d : Char} (hc : isNameChar c = true) (hd : isNameChar d = false) :
    c ≠ d := by
  rintro rfl
  rw [hc] at hd
  cases hd

theorem toNat_of_isNameChar {c : Char} (hc : isNameChar c = true) :
    0x30 ≤ c.toNat ∧ c.toNat ≤ 0x7A := by
  simp only [isNameChar, Bool.or_eq_true, Bool.and_eq_true, decide_eq_true_eq, beq_iff_eq] at hc
  omega

theorem isPrintable_of_isNameChar {c : Char} (hc : isNameChar c = true) :
    isPrintable c = true := by
  have hn := toNat_of_isNameChar hc
  simp only [isPrintable, Bool.or_eq_true, Bool.and_eq_true, decide_eq_true_eq]
  omega

theorem isBreak_of_isNameChar {c : Char} (hc : isNameChar c = true) : isBreak c = false := by
  simp (disch := decide) [isBreak, ne_of_isNameChar hc]

theorem isBlank_of_isNameChar {c : Char} (hc : isNameChar c = true) : isBlank c = false := by
  simp (disch := decide) [isBlank, ne_of_isNameChar hc]

/-- The names of fields.  The lexer gives up keys that are far longer than these. -/
structure IsName (name : Text) : Prop where
  isNameChar_of_mem : ∀ c ∈ name, isNameChar c = true
  ne_nil : name ≠ []
  length_le : name.length ≤ 256

instance (name : Text) : Decidable (IsName name) :=
  decidable_of_iff (name.all isNameChar = true ∧ name ≠ [] ∧ name.length ≤ 256)
    ⟨fun ⟨hchars, hne, hle⟩ => ⟨List.all_eq_true.1 hchars, hne, hle⟩,
      fun ⟨hchars, hne, hle⟩ => ⟨List.all_eq_true.2 hchars, hne, hle⟩⟩

/-! ### Lines -/

/-- How many spaces come before the text of a line. -/
def indentation (t : Text) : Nat :=
  (t.takeWhile (· == ' ')).length

/-- A line without the spaces before its text. -/
def content (t : Text) : Text :=
  t.dropWhile (· == ' ')

/-- A line is its indentation and its content. -/
theorem replicate_append_content (t : Text) :
    List.replicate (indentation t) ' ' ++ content t = t := by
  have hspaces : t.takeWhile (· == ' ') = List.replicate (indentation t) ' ' := by
    refine List.eq_replicate_of_mem fun c hc => ?_
    simpa using List.all_eq_true.1 List.all_takeWhile c hc
  rw [← hspaces]
  exact List.takeWhile_append_dropWhile

/-- The text goes on with a name or is at its end. -/
def StartsName (t : Text) : Prop :=
  ∀ c ∈ t.head?, isNameChar c = true

/-- A line of a field, or the end of the text. -/
structure IsLine (t : Text) : Prop where
  indentation_le : indentation t ≤ 2
  startsName : StartsName (content t)

theorem startsName_append {name : Text} (hname : IsName name) (t : Text) :
    StartsName (name ++ t) := by
  obtain ⟨c, name, rfl⟩ := List.exists_cons_of_ne_nil hname.ne_nil
  intro d hd
  cases hd
  exact hname.isNameChar_of_mem c List.mem_cons_self

theorem indentation_and_content {u : Text} (hu : StartsName u) (k : Nat) :
    indentation (List.replicate k ' ' ++ u) = k ∧ content (List.replicate k ' ' ++ u) = u := by
  have hspaces : ∀ c ∈ List.replicate k ' ', (c == ' ') = true := by
    intro c hc
    rw [List.eq_of_mem_replicate hc]
    rfl
  -- A name begins with no space, so the spaces end there.
  have hname : ∀ c ∈ u.head?, (c == ' ') = false :=
    fun c hc => beq_false_of_ne (ne_of_isNameChar (hu c hc) rfl)
  obtain ⟨htake, hdrop⟩ := span_append hspaces hname
  rw [indentation, content, htake, hdrop, List.length_replicate]
  exact ⟨rfl, rfl⟩

theorem isLine_replicate {u : Text} (hu : StartsName u) {k : Nat} (hk : k ≤ 2) :
    IsLine (List.replicate k ' ' ++ u) := by
  obtain ⟨hindentation, hcontent⟩ := indentation_and_content hu k
  refine ⟨?_, ?_⟩
  · rwa [hindentation]
  · rwa [hcontent]

end WifiNames.Yaml
