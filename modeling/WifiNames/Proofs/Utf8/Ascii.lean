import WifiNames.Proofs.Utf8.Reading
import WifiNames.Proofs.Utf8.Slice

namespace WifiNames.Utf8

/-!
# UTF-8 — ASCII bytes in a text

An ASCII byte is never part of a longer character, so wherever one is found among the bytes of a text,
it is a character of the text and stands between two others.

* `drop_length_encode` — the bytes behind the beginning of a text.
* `exists_of_encode` — an ASCII byte at the start of a text is its first character.
* `isBoundary_of_drop_encode` — **an ASCII byte is at a boundary.**
-/

/-- Behind a beginning of a text come the bytes of the rest. -/
theorem drop_length_encode (before t : Text) :
    (encode (before ++ t)).drop (length before) = encode t := by
  rw [encode_append, ← length_encode, List.drop_left]

/-- An ASCII byte at the start of a text is its first character. -/
theorem exists_of_encode {t : Text} {b : UInt8} {rest : Bytes} (h : encode t = b :: rest)
    (hb : b < 0x80) : ∃ c after, t = c :: after ∧ String.utf8EncodeChar c = [b] ∧
      encode after = rest := by
  cases t with
  | nil => cases h
  | cons c after =>
    obtain ⟨x, more, hc⟩ := exists_utf8EncodeChar_eq_cons c
    rw [encode_cons, hc, List.cons_append] at h
    obtain ⟨rfl, hrest⟩ := List.cons.inj h
    -- The first byte is ASCII, so the first character has no other byte.
    have hsingle := utf8EncodeChar_of_mem hb (c := c) (by rw [hc]; exact List.mem_cons_self)
    rw [hc] at hsingle
    obtain ⟨-, rfl⟩ := List.cons.inj hsingle
    exact ⟨c, after, rfl, hc, hrest⟩

/-- **ASCII bytes** of a text stand between characters, wherever one comes upon them. -/
theorem isBoundary_of_drop_encode {t : Text} {i : Nat} {b : UInt8} {rest : Bytes}
    (h : (encode t).drop i = b :: rest) (hb : b < 0x80) : IsBoundary t i := by
  induction t generalizing i with
  | nil =>
    rw [encode, List.flatMap_nil, List.drop_nil] at h
    cases h
  | cons c t ih =>
    have hsize := String.length_utf8EncodeChar c
    by_cases hi : i < c.utf8Size
    · -- Within the bytes of `c`, an ASCII byte is the only one.
      have hmem : b ∈ String.utf8EncodeChar c := by
        refine List.mem_of_mem_drop (i := i) ?_
        rw [encode_cons, List.drop_append_of_le_length (by omega)] at h
        cases hdrop : (String.utf8EncodeChar c).drop i with
        | nil =>
          have hle := List.drop_eq_nil_iff.1 hdrop
          omega
        | cons x more =>
          rw [hdrop, List.cons_append] at h
          rw [(List.cons.inj h).1]
          exact List.mem_cons_self
      rw [utf8EncodeChar_of_mem hb hmem, List.length_singleton] at hsize
      exact ⟨[], c :: t, rfl, by rw [length]; omega⟩
    · -- Behind `c` the rest is searched, with the bytes of `c` left out of the count.
      rw [encode_cons, List.drop_append, List.drop_eq_nil_iff.2 (by omega), hsize,
        List.nil_append] at h
      obtain ⟨before, after, rfl, hlen⟩ := ih h
      refine ⟨c :: before, after, rfl, ?_⟩
      rw [length_cons]
      omega

end WifiNames.Utf8
