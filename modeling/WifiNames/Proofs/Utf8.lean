import WifiNames.Text.Utf8

namespace WifiNames.Utf8

/-!
# UTF-8 — encoding and cutting a text

The small facts about `encode`, `length`, `takeBytes` and `truncate` that everything about converted
names rests on.

* `WellFormed` — the bytes of some text, which is what strict UTF-8 means.
* `length_encode` — a text is measured by the bytes of its encoding.
* `takeBytes_eq_self`, `truncate_eq_self` — a text that fits is not cut.
* `truncate_isPrefix` — a cut text is the beginning of the text.
-/

/-- Strict UTF-8: the bytes are the encoding of some text. -/
def WellFormed (b : Bytes) : Prop :=
  ∃ t : Text, encode t = b

@[simp] theorem encode_cons (c : Char) (t : Text) :
    encode (c :: t) = String.utf8EncodeChar c ++ encode t := rfl

theorem encode_append (a b : Text) : encode (a ++ b) = encode a ++ encode b :=
  List.flatMap_append

theorem wellFormed_encode (t : Text) : WellFormed (encode t) :=
  ⟨t, rfl⟩

/-- The length of a text is the number of bytes of its encoding. -/
theorem length_encode (t : Text) : (encode t).length = length t := by
  induction t with
  | nil => rfl
  -- A text is measured character by character, as it is encoded.
  | cons c t ih => rw [encode_cons, List.length_append, String.length_utf8EncodeChar, ih, length]

/-- A text that fits is not cut. -/
theorem takeBytes_eq_self {n : Nat} {t : Text} (h : length t ≤ n) : takeBytes n t = t := by
  induction t generalizing n with
  | nil => rfl
  | cons c t ih =>
    rw [length] at h
    rw [takeBytes, if_pos (by omega), ih (by omega)]

/-- A cut text is the beginning of the text. -/
theorem takeBytes_isPrefix (n : Nat) (t : Text) : takeBytes n t <+: t := by
  induction t generalizing n with
  | nil => exact List.prefix_rfl
  | cons c t ih =>
    rw [takeBytes]
    split
    · exact (List.prefix_cons_inj c).2 (ih _)
    · exact List.nil_prefix

/-- A text that fits is not truncated. -/
theorem truncate_eq_self {n : Nat} {t : Text} (h : length t ≤ n) : truncate n t = t := by
  rw [truncate, if_pos h]

/-- A truncated text is the beginning of the text. -/
theorem truncate_isPrefix (n : Nat) (t : Text) : truncate n t <+: t := by
  -- Without a boundary nothing would be left, which is a beginning too.
  unfold truncate
  split
  · exact List.prefix_rfl
  · split
    · exact takeBytes_isPrefix _ t
    · exact List.nil_prefix

end WifiNames.Utf8
