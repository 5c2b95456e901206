import Mathlib.Data.List.TakeWhile
import WifiNames.Converter
import WifiNames.Proofs.Utf8

namespace WifiNames

/-!
# Converters — what a converter answers

* `Transcoder.convert?` — the converted form of a name, if there is one.
* `Converter.value_toUtf8With`, `Converter.value_toUtf8` — the answer by decoder and decoded text,
  without the notes.
* `Converter.wellFormed_of_toUtf8With` — what a converter answers is strict UTF-8, whatever the library
  of decoders.
* `takeWhile_ne_eq_or`, `Converter.beforeNul_isPrefix` — what comes before the first NUL.
* `Converter.shown_eq_self` — a text without NUL that fits is kept whole.
-/

/-- A list goes on after its part before the first `a` with that `a`, if it has one at all. -/
theorem takeWhile_ne_eq_or {α : Type} [BEq α] [LawfulBEq α] (a : α) (l : List α) :
    l.takeWhile (· != a) = l ∨ ∃ rest, l = l.takeWhile (· != a) ++ a :: rest := by
  have happend := List.takeWhile_append_dropWhile (p := (· != a)) (l := l)
  cases hdrop : l.dropWhile (· != a) with
  | nil =>
    rw [hdrop, List.append_nil] at happend
    exact Or.inl happend
  -- What is not taken begins with the first character that ends the search, which is `a`.
  | cons x rest =>
    have hx : x = a := by
      have hhead := List.head?_dropWhile_not (· != a) l
      rw [hdrop] at hhead
      simpa using hhead
    rw [hdrop, hx] at happend
    exact Or.inr ⟨rest, happend.symm⟩

theorem notMem_takeWhile_ne {α : Type} [BEq α] [LawfulBEq α] (a : α) (l : List α) :
    a ∉ l.takeWhile (· != a) := by
  intro ha
  have hne := List.mem_takeWhile_imp ha
  simp at hne

/-- The converted form of a name, if there is one. -/
def Transcoder.convert? (t : Transcoder) (raw : Bytes) : Option Bytes :=
  (t.toUtf8 raw).value.toOption

theorem Transcoder.convert?_eq_some_iff {t : Transcoder} {raw u : Bytes} :
    t.convert? raw = some u ↔ (t.toUtf8 raw).value = .ok u := by
  rw [convert?]
  cases (t.toUtf8 raw).value <;> simp [Except.toOption]

namespace Converter

/-- The answer of a converter, whatever the library of decoders. -/
theorem value_toUtf8With (decoder? : String → Option Decoder) (c : Converter) (raw : Bytes) :
    (c.toUtf8With decoder? raw).value =
      match decoder? c.charset with
      | none => .error (.unavailable c.charset)
      | some decoder =>
        match decoder.decode? raw with
        | none => .error (.invalidInput c.charset raw.length)
        | some decoded => .ok (Utf8.encode (c.shown decoded)) := by
  rw [toUtf8With]
  cases decoder? c.charset with
  | none => rfl
  | some decoder =>
    cases hdecode : decoder.decode? raw with
    | none => simp only [hdecode]; rfl
    | some decoded =>
      simp only [hdecode]
      split <;> rfl

/-- The answer of a converter. -/
theorem value_toUtf8 (c : Converter) (raw : Bytes) :
    (c.toUtf8 raw).value =
      match Charset.ofLabel? c.charset with
      | none => .error (.unavailable c.charset)
      | some charset =>
        match charset.decode? raw with
        | none => .error (.invalidInput c.charset raw.length)
        | some decoded => .ok (Utf8.encode (c.shown decoded)) := by
  rw [toUtf8, value_toUtf8With, Charset.decoder?]
  cases Charset.ofLabel? c.charset <;> rfl

/-- **Converted names are text**, in whatever encoding they were read. -/
theorem wellFormed_of_toUtf8With {decoder? : String → Option Decoder} {c : Converter} {raw u : Bytes}
    (h : (c.toUtf8With decoder? raw).value = .ok u) : Utf8.WellFormed u := by
  rw [value_toUtf8With] at h
  split at h
  · cases h
  · split at h
    · cases h
    · cases h
      exact Utf8.wellFormed_encode _

theorem beforeNul_isPrefix (t : Text) : beforeNul t <+: t :=
  List.takeWhile_prefix _

/-- A text without NUL that fits is kept whole. -/
theorem shown_eq_self {c : Converter} {t : Text} (hnul : '\x00' ∉ t)
    (hlen : Utf8.length t ≤ c.capacity) : c.shown t = t := by
  have hbefore : beforeNul t = t := by
    rw [beforeNul, List.takeWhile_eq_self_iff]
    intro x hx
    exact bne_iff_ne.2 fun heq => hnul (heq ▸ hx)
  rw [shown, hbefore, Utf8.truncate_eq_self hlen]

end Converter

end WifiNames
