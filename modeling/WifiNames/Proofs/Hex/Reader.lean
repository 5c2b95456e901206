import Mathlib.Data.List.Basic
import Mathlib.Data.List.TakeWhile
import WifiNames.Proofs.Field
import WifiNames.Proofs.Hex
import WifiNames.Proofs.Utf8.Reading
import WifiNames.Text.Hex.Reader

namespace WifiNames

/-!
# Typed names — which texts are read as hex

A name is typed as its digits, with more or less around them and between them.  Two notions of blanks
are at work: what is trimmed from the ends is any Unicode blank, while between the digits only ASCII
blanks may stand, and bytes are filtered there, not characters.

* `Text.trim_append`, `Text.exists_trim` — what is trimmed.
* `Decorates` — digits with the case of some changed and separators inserted anywhere.
* `IsTyped` — such a text with a radix in front and blanks around it, or without them.
* `solid` — the bytes of a text that are to be digits, character by character.
* `decorates_iff` — **digits are decorated** exactly if these bytes have their values.
* `read_eq_ok_iff_isTyped` — **exactly these texts are read**, and the others are refused.
-/

/-! ### Blanks at the ends -/

namespace Text

/-- What comes at the end of a text and satisfies `p` makes no difference. -/
theorem dropTrailing_append {p : Char → Bool} (t : Text) {ends : Text}
    (hends : ∀ c ∈ ends, p c = true) : dropTrailing p (t ++ ends) = dropTrailing p t := by
  obtain ⟨more, hmore, hall⟩ := Scan.exists_dropTrailing_append p t
  have hrest : ∀ c ∈ more ++ ends, p c = true := List.forall_mem_append.2 ⟨hall, hends⟩
  have hdrop := Scan.dropTrailing_append (Scan.getLast?_dropTrailing p t) hrest
  rwa [← List.append_assoc, hmore] at hdrop

/-- A character that does not satisfy `p` is left, with what is left behind it. -/
theorem dropTrailing_cons {p : Char → Bool} {c : Char} (hc : p c = false) (t : Text) :
    dropTrailing p (c :: t) = c :: dropTrailing p t := by
  rw [dropTrailing]
  split
  · rename_i hnil
    rw [hnil, hc]
    rfl
  · rfl

/-- Blanks around a text make no difference. -/
theorem trim_append {left t right : Text} (hleft : ∀ c ∈ left, isBlank c = true)
    (hright : ∀ c ∈ right, isBlank c = true) : trim (left ++ t ++ right) = trim t := by
  rw [trim, trimWhere, List.append_assoc, List.dropWhile_append_of_pos hleft, List.dropWhile_append]
  -- If the text is blank, what follows it is dropped from the left with it.
  split
  · rename_i hempty
    rw [List.dropWhile_eq_nil_iff.2 hright, trim, trimWhere, List.isEmpty_iff.1 hempty]
  · exact dropTrailing_append _ hright

/-- A text is what is left of it, with blanks around that. -/
theorem exists_trim (t : Text) : ∃ left right, left ++ trim t ++ right = t ∧
    (∀ c ∈ left, isBlank c = true) ∧ ∀ c ∈ right, isBlank c = true := by
  obtain ⟨right, hright, hall⟩ := Scan.exists_dropTrailing_append isBlank (t.dropWhile isBlank)
  refine ⟨t.takeWhile isBlank, right, ?_, fun c hc => List.mem_takeWhile_imp hc, hall⟩
  rw [List.append_assoc, trim, trimWhere, hright, List.takeWhile_append_dropWhile]

/-- What is left of a text are characters of it. -/
theorem trim_subset (t : Text) : trim t ⊆ t := by
  obtain ⟨left, right, htrim, -⟩ := exists_trim t
  intro c hc
  rw [← htrim]
  exact List.mem_append_left _ (List.mem_append_right _ hc)

end Text

namespace Hex

/-! ### Typed texts -/

/-- The characters that may stand between digits: the ASCII blanks and the colon. -/
def separators : List Char :=
  [' ', '\t', '\n', '\x0C', '\r', ':']

/-- A text that is made from digits by changing the case of some of them, and by inserting separators
    anywhere. -/
inductive Decorates : Text → Text → Prop where
  | nil : Decorates [] []
  /-- A digit, as it is or in uppercase. -/
  | digit {c d : Char} {t digits : Text} (hc : c = d ∨ c = d.toUpper) (h : Decorates t digits) :
    Decorates (c :: t) (d :: digits)
  /-- A separator, also between the two digits of one byte. -/
  | separator {c : Char} {t digits : Text} (hc : c ∈ separators) (h : Decorates t digits) :
    Decorates (c :: t) digits

/-- What may stand in front of the digits. -/
def radixes : List Text :=
  [[], ['0', 'x'], ['0', 'X']]

/-- A text that spells bytes as they may be typed: their digits, decorated, with a radix in front or
    none, and blanks around it. -/
def IsTyped (input : Text) (b : Bytes) : Prop :=
  ∃ left radix body right, input = left ++ (radix ++ body) ++ right ∧
    (∀ c ∈ left, Text.isBlank c = true) ∧ radix ∈ radixes ∧ Decorates body (encode b) ∧
    ∀ c ∈ right, Text.isBlank c = true

/-! ### Characters -/

/-- The bytes of a text that are to be digits. -/
def solid (t : Text) : Bytes :=
  (Utf8.encode t).filter fun x => !isSeparator x

theorem solid_cons (c : Char) (t : Text) :
    solid (c :: t) = (String.utf8EncodeChar c).filter (fun x => !isSeparator x) ++ solid t := by
  rw [solid, Utf8.encode_cons, List.filter_append]
  rfl

theorem solid_append (a b : Text) : solid (a ++ b) = solid a ++ solid b := by
  rw [solid, Utf8.encode_append, List.filter_append]
  rfl

theorem solid_separator {c : Char} (hc : c ∈ separators) (t : Text) : solid (c :: t) = solid t := by
  have hnone : ∀ c ∈ separators, (String.utf8EncodeChar c).filter (fun x => !isSeparator x) = [] :=
    List.forall_iff_forall_mem.1 (by decide +kernel)
  rw [solid_cons, hnone c hc, List.nil_append]

theorem solid_eq_nil {t : Text} (ht : ∀ c ∈ t, c ∈ separators) : solid t = [] := by
  induction t with
  | nil => rfl
  | cons c t ih =>
    obtain ⟨hc, ht⟩ := List.forall_mem_cons.1 ht
    rw [solid_separator hc, ih ht]

/-- A byte outside of ASCII is no separator. -/
theorem isSeparator_of_high {x : UInt8} (hx : ¬ x < 0x80) : isSeparator x = false := by
  simp [isSeparator, Text.isAsciiBlank, Utf8.ne_of_high hx]

/-- A character that is no separator adds a byte with its value as a digit, and more bytes only if it
    is no digit. -/
theorem exists_solid {c : Char} (hc : c ∉ separators) :
    ∃ x more, byteValue? x = value? c ∧ (more = [] ∨ value? c = none) ∧
      ∀ t, solid (c :: t) = x :: (more ++ solid t) := by
  obtain ⟨x, more, hencode⟩ := Utf8.exists_utf8EncodeChar_eq_cons c
  have hvalue := byteValue?_of_encode hencode
  rcases Nat.lt_or_ge c.toNat 0x80 with hlow | hhigh
  · -- An ASCII character is its one byte, which is a separator if the character is.
    have hascii : c ∉ separators → isSeparator (UInt8.ofNat c.toNat) = false :=
      Utf8.ascii_induction c hlow (by decide +kernel)
    have hsep := hascii hc
    rw [Utf8.utf8EncodeChar_of_lt hlow] at hencode
    obtain ⟨rfl, rfl⟩ := List.cons.inj hencode
    refine ⟨_, [], hvalue, Or.inl rfl, fun t => ?_⟩
    rw [solid_cons, Utf8.utf8EncodeChar_of_lt hlow, List.filter_cons, hsep]
    rfl
  · -- The first byte of any other character stays, and refuses the text if digits are wanted.
    have hx : ¬ x < 0x80 := by
      refine Utf8.not_lt_of_mem_utf8EncodeChar hhigh x ?_
      rw [hencode]
      exact List.mem_cons_self
    refine ⟨x, more.filter fun x => !isSeparator x, hvalue, Or.inr (value?_of_high hhigh),
      fun t => ?_⟩
    rw [solid_cons, hencode, List.filter_cons, isSeparator_of_high hx]
    rfl

/-! ### Decorated digits -/

/-- A digit of a given value is no separator. -/
theorem notMem_separators {c : Char} {n : Nat} (h : value? c = some n) : c ∉ separators := by
  have hnone : ∀ c ∈ separators, value? c = none := List.forall_iff_forall_mem.1 (by decide)
  intro hc
  rw [hnone c hc] at h
  cases h

/-- The character before decorated digits is a separator or the first of them. -/
theorem decorates_cons_iff {c : Char} {t digits : Text} :
    Decorates (c :: t) digits ↔ (c ∈ separators ∧ Decorates t digits) ∨
      ∃ d more, digits = d :: more ∧ (c = d ∨ c = d.toUpper) ∧ Decorates t more := by
  constructor
  · intro h
    cases h with
    | digit hc h => exact Or.inr ⟨_, _, rfl, hc, h⟩
    | separator hc h => exact Or.inl ⟨hc, h⟩
  · rintro (⟨hc, h⟩ | ⟨d, more, rfl, hc, h⟩)
    · exact .separator hc h
    · exact .digit hc h

/-- Which digit a character is, of those that are written for values. -/
theorem eq_digit_iff {c : Char} {n : Nat} (hn : n < 16) :
    (c = digit n ∨ c = (digit n).toUpper) ↔ value? c = some n := by
  constructor
  · rintro (rfl | rfl)
    · exact value?_digit hn
    · exact value?_toUpper_digit hn
  · exact fun h => (eq_digit_of_value? h).2

/-- **Decorated digits.** A text is made from digits exactly if the bytes in it that are no separators
    have the values of these digits. -/
theorem decorates_iff {t : Text} {ns : List Nat} (hns : ∀ n ∈ ns, n < 16) :
    Decorates t (ns.map digit) ↔ (solid t).map byteValue? = ns.map some := by
  induction t generalizing ns with
  | nil =>
    cases ns with
    | nil => exact iff_of_true .nil rfl
    | cons n ns => exact iff_of_false (fun h => by cases h) (fun h => by cases h)
  | cons c t ih =>
    rw [decorates_cons_iff]
    -- A separator adds no byte that counts; no separator is a digit.
    by_cases hc : c ∈ separators
    · rw [solid_separator hc, ← ih hns]
      refine ⟨?_, fun h => Or.inl ⟨hc, h⟩⟩
      rintro (⟨-, h⟩ | ⟨d, more, hd, hcase, -⟩)
      · exact h
      · obtain ⟨n, _, rfl, rfl, -⟩ := List.map_eq_cons_iff.1 hd
        obtain ⟨hn, -⟩ := List.forall_mem_cons.1 hns
        exact absurd hc (notMem_separators ((eq_digit_iff hn).1 hcase))
    · obtain ⟨x, more, hvalue, hmore, hsolid⟩ := exists_solid hc
      simp only [hc, false_and, false_or, hsolid, List.map_cons]
      constructor
      · rintro ⟨d, rest, hd, hcase, h⟩
        obtain ⟨n, ns, rfl, rfl, rfl⟩ := List.map_eq_cons_iff.1 hd
        obtain ⟨hn, hns⟩ := List.forall_mem_cons.1 hns
        have hcn := (eq_digit_iff hn).1 hcase
        -- A character with a value is a single byte.
        obtain rfl := hmore.resolve_right (by simp [hcn])
        rw [List.nil_append, hvalue, hcn, (ih hns).1 h, List.map_cons]
      · intro h
        obtain ⟨n, ns, rfl, hn, hrest⟩ := List.map_eq_cons_iff.1 h.symm
        obtain ⟨hlt, hns⟩ := List.forall_mem_cons.1 hns
        have hcn : value? c = some n := hvalue.symm.trans hn.symm
        obtain rfl := hmore.resolve_right (by simp [hcn])
        exact ⟨_, _, rfl, (eq_digit_iff hlt).2 hcn, (ih hns).2 hrest.symm⟩

/-- The characters of decorated digits are separators and digits. -/
theorem Decorates.of_mem {t : Text} {ns : List Nat} (hns : ∀ n ∈ ns, n < 16)
    (h : Decorates t (ns.map Hex.digit)) : ∀ c ∈ t, c ∈ separators ∨ isDigit c = true := by
  induction t generalizing ns with
  | nil => simp
  | cons c t ih =>
    rw [List.forall_mem_cons]
    rcases decorates_cons_iff.1 h with ⟨hc, h⟩ | ⟨d, more, hd, hcase, h⟩
    · exact ⟨Or.inl hc, ih hns h⟩
    · obtain ⟨n, ns, rfl, rfl, rfl⟩ := List.map_eq_cons_iff.1 hd
      obtain ⟨hn, hns⟩ := List.forall_mem_cons.1 hns
      exact ⟨Or.inr (isDigit_of_value? ((eq_digit_iff hn).1 hcase)), ih hns h⟩

/-! ### Trimming and the radix -/

/-- What is trimmed from the end of a text without other blanks than separators are no digits. -/
theorem solid_dropTrailing {t : Text} (ht : ∀ c ∈ t, Text.isBlank c = true → c ∈ separators) :
    solid (Text.dropTrailing Text.isBlank t) = solid t := by
  obtain ⟨ends, hends, hblank⟩ := Scan.exists_dropTrailing_append Text.isBlank t
  have hnil : solid ends = [] := by
    refine solid_eq_nil fun c hc => ht c ?_ (hblank c hc)
    rw [← hends]
    exact List.mem_append_right _ hc
  have happend := solid_append (Text.dropTrailing Text.isBlank t) ends
  rwa [hends, hnil, List.append_nil, eq_comm] at happend

/-- Nor is what is trimmed from both ends. -/
theorem solid_trim {t : Text} (ht : ∀ c ∈ t, Text.isBlank c = true → c ∈ separators) :
    solid (Text.trim t) = solid t := by
  have hleft : solid (t.takeWhile Text.isBlank) = [] :=
    solid_eq_nil fun c hc => ht c (List.takeWhile_subset _ hc) (List.mem_takeWhile_imp hc)
  have hrest := solid_dropTrailing fun c hc => ht c (List.dropWhile_subset (p := Text.isBlank) hc)
  have happend := solid_append (t.takeWhile Text.isBlank) (t.dropWhile Text.isBlank)
  rw [List.takeWhile_append_dropWhile, hleft, List.nil_append] at happend
  rw [Text.trim, Text.trimWhere, hrest, happend]

/-- A text is a radix and what is left without it. -/
theorem exists_radix (t : Text) : ∃ radix ∈ radixes, radix ++ dropRadix t = t := by
  fun_cases dropRadix t with
  | case1 rest => exact ⟨['0', 'x'], by decide, rfl⟩
  | case2 rest => exact ⟨['0', 'X'], by decide, rfl⟩
  | case3 t => exact ⟨[], by decide, rfl⟩

/-- Without an `x`, there is no radix. -/
theorem dropRadix_eq_self {t : Text} (hlower : 'x' ∉ t) (hupper : 'X' ∉ t) : dropRadix t = t := by
  fun_cases dropRadix t with
  | case1 rest => exact absurd (by simp) hlower
  | case2 rest => exact absurd (by simp) hupper
  | case3 t => rfl

/-! ### Reading -/

/-- Decorated digits are not changed by trimming, with a radix in front of them or without one. -/
theorem solid_dropRadix_trim {radix body : Text} {b : Bytes} (hradix : radix ∈ radixes)
    (hbody : Decorates body (encode b)) :
    solid (dropRadix (Text.trim (radix ++ body))) = solid body := by
  rw [encode_eq] at hbody
  have hmem := hbody.of_mem lt_of_mem_nibbles
  -- The blanks among decorated digits are separators, so it does not matter which are trimmed.
  have hblank : ∀ c ∈ body, Text.isBlank c = true → c ∈ separators := by
    intro c hc hblank
    refine (hmem c hc).resolve_right fun hdigit => ?_
    rw [(isBlank_of_isDigit hdigit).1] at hblank
    cases hblank
  -- With a radix in front nothing is trimmed on the left, and the radix is dropped again.
  have hprefixed (x : Char) (hx : Text.isBlank x = false) (hdrop : ∀ t, dropRadix ('0' :: x :: t) = t) :
      solid (dropRadix (Text.trim ('0' :: x :: body))) = solid body := by
    show solid (dropRadix (Text.dropTrailing Text.isBlank ('0' :: x :: body))) = solid body
    rw [Text.dropTrailing_cons (by decide), Text.dropTrailing_cons hx, hdrop, solid_dropTrailing hblank]
  simp only [radixes, List.mem_cons, List.not_mem_nil, or_false] at hradix
  rcases hradix with rfl | rfl | rfl
  · -- The first digit is no radix, since there is no `x` behind it.
    have hnot (x : Char) (hsep : x ∉ separators) (hdigit : isDigit x = false) :
        x ∉ Text.trim body := by
      intro hx
      have hbody : x ∈ body := Text.trim_subset body hx
      rcases hmem x hbody with h | h
      · exact hsep h
      · rw [hdigit] at h
        cases h
    rw [List.nil_append, dropRadix_eq_self (hnot 'x' (by decide) (by decide))
      (hnot 'X' (by decide) (by decide)), solid_trim hblank]
  · exact hprefixed 'x' (by decide) fun _ => rfl
  · exact hprefixed 'X' (by decide) fun _ => rfl

/-- A name is read as the bytes with its digits. -/
theorem read_eq_ok_iff {input : Text} {b : Bytes} :
    read input = .ok b ↔ (digits input).map byteValue? = (nibbles b).map some := by
  rw [← pairs?_eq_some_iff, read]
  split
  · rename_i hodd
    -- An odd number of digits makes no bytes.
    refine iff_of_false (fun h => by cases h) fun h => ?_
    have hlength := congrArg List.length (pairs?_eq_some_iff.1 h)
    rw [List.length_map, List.length_map, length_nibbles] at hlength
    omega
  · split
    · rename_i bytes hpairs
      rw [hpairs]
      simp
    · rename_i hnone
      rw [hnone]
      simp

/-- Every other name is refused, with one of two causes. -/
theorem exists_read_eq_ok_or (input : Text) :
    (∃ b, read input = .ok b) ∨
      read input = .error (.parse ("Odd number of hex digits: " ++ String.ofList input)) ∨
      read input = .error (.parse ("Invalid hex digits in: " ++ String.ofList input)) := by
  unfold read
  split
  · exact Or.inr (Or.inl rfl)
  · split
    · exact Or.inl ⟨_, rfl⟩
    · exact Or.inr (Or.inr rfl)

/-- Typed names are read. -/
theorem IsTyped.read_eq {input : Text} {b : Bytes} (h : IsTyped input b) : read input = .ok b := by
  obtain ⟨left, radix, body, right, rfl, hleft, hradix, hbody, hright⟩ := h
  -- The blanks and the radix go, and what is left has the bytes of the decorated digits.
  have hdigits : digits (left ++ (radix ++ body) ++ right) = solid body := by
    show solid (dropRadix (Text.trim (left ++ (radix ++ body) ++ right))) = solid body
    rw [Text.trim_append hleft hright, solid_dropRadix_trim hradix hbody]
  rw [encode_eq, decorates_iff lt_of_mem_nibbles] at hbody
  rw [read_eq_ok_iff, hdigits, hbody]

/-- Names that are read are typed as the bytes that they are read as. -/
theorem isTyped_of_read {input : Text} {b : Bytes} (h : read input = .ok b) : IsTyped input b := by
  obtain ⟨left, right, hinput, hleft, hright⟩ := Text.exists_trim input
  obtain ⟨radix, hradix, htrim⟩ := exists_radix (Text.trim input)
  refine ⟨left, radix, dropRadix (Text.trim input), right, ?_, hleft, hradix, ?_, hright⟩
  · rw [htrim, hinput]
  · -- What was read tells the values of the digits, and these decide what is decorated.
    rw [encode_eq, decorates_iff lt_of_mem_nibbles]
    exact read_eq_ok_iff.1 h

/-- Digits may be left as they are. -/
theorem isTyped_encode (b : Bytes) : IsTyped (encode b) b := by
  have hself (digits : Text) : Decorates digits digits := by
    induction digits with
    | nil => exact .nil
    | cons d digits ih => exact .digit (Or.inl rfl) ih
  exact ⟨[], [], encode b, [], by simp, by simp, List.mem_cons_self, hself _, by simp⟩

/-- **Typed names.** A text is read as some bytes exactly if it spells them: their digits, the case of
    some changed, separators inserted anywhere, a radix in front of that or none, and blanks around it.
    Every other text is refused as one that cannot be parsed.  So reading undoes writing. -/
theorem read_eq_ok_iff_isTyped (input : Text) :
    (∀ b, read input = .ok b ↔ IsTyped input b) ∧
      ((∃ b, IsTyped input b) ∨
        read input = .error (.parse ("Odd number of hex digits: " ++ String.ofList input)) ∨
        read input = .error (.parse ("Invalid hex digits in: " ++ String.ofList input))) ∧
      ∀ b, read (encode b) = .ok b := by
  refine ⟨fun b => ⟨isTyped_of_read, IsTyped.read_eq⟩, ?_, fun b => (isTyped_encode b).read_eq⟩
  rcases exists_read_eq_ok_or input with ⟨b, hb⟩ | hcause
  · exact Or.inl ⟨b, isTyped_of_read hb⟩
  · exact Or.inr hcause

/-- A vertical tab is a blank at the end, but does not stand between digits. -/
example : read "\u3000 0XD:6 d\t0\x0B".toList = .ok [0xD6, 0xD0] ∧
    read "d6\x0Bd0".toList = .error (.parse "Odd number of hex digits: d6\x0Bd0") := by
  decide +kernel

end Hex

end WifiNames
