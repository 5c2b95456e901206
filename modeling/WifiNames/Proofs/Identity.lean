import WifiNames.Proofs.Agreement
import WifiNames.Proofs.Gb18030.Distinct

namespace WifiNames

/-!
# Identity — telling names apart by what is shown

A converted name is remembered as the name that a user sees and chooses.  A name that is kept whole
can be told from what is shown, except that the ideographic space has two cells: names that differ
in the choice between those are shown alike.

* `Converter.toUtf8_eq_iff` — when two names are shown alike.
* `toUtf8_default_eq_iff` — the same for names as short as names are, in the default charset.
* `toUtf8_default_eq_of_spare` — two names that are shown alike.
-/

open Charset

namespace Charset.ReadsByCell

variable {charset : Charset} {b b' : Bytes} {xs ys : List Shape.Cell} {s t : Text}

/-- Two names are read as the same text exactly if they are alike, cell by cell. -/
theorem text_eq_iff (hb : charset.ReadsByCell b xs s) (hb' : charset.ReadsByCell b' ys t) :
    s = t ↔ List.Forall₂ Gb18030.Alike xs ys := by
  constructor
  · rintro rfl
    exact Gb18030.forall₂_alike_of_reads hb.isValid hb'.isValid hb.reads hb'.reads
  · intro halike
    exact Gb18030.eq_of_forall₂_alike halike hb.reads hb'.reads

/-- Without the spare cell, different names are read as different texts. -/
theorem text_ne (hb : charset.ReadsByCell b xs s) (hb' : charset.ReadsByCell b' ys t)
    (hne : b ≠ b') (hx : .pair 0xA3 0xA0 ∉ xs) (hy : .pair 0xA3 0xA0 ∉ ys) : s ≠ t := by
  intro heq
  -- Names that are read alike have the same cells, since none of them is the spare one.
  have halike := (hb.text_eq_iff hb').1 heq
  have hcells : xs = ys := Gb18030.eq_of_forall₂_alike_of_notMem halike hx hy
  exact hne (by rw [← hb.flatMap_bytes_eq, hcells, hb'.flatMap_bytes_eq])

end Charset.ReadsByCell

/-- What a converter with enough room makes of a name without a zero byte. -/
theorem Converter.exists_toUtf8 {c : Converter} {charset : Charset}
    (hlabel : Charset.ofLabel? c.charset = some charset) (hfamily : charset.IsGbkFamily) {b : Bytes}
    (hb : isGbkName b = true) (hzero : 0 ∉ b) (hroom : 3 * b.length ≤ 2 * c.capacity) :
    ∃ cells text, charset.ReadsByCell b cells text ∧
      (c.toUtf8 b).value = .ok (Utf8.encode text) := by
  obtain ⟨cells, text, hreads, hconvert⟩ := c.exists_readsByCell hlabel hfamily hb
  refine ⟨cells, text, hreads, ?_⟩
  rw [hconvert, shown_of_readsByCell hreads hzero hroom]

/-- **Which names are shown alike.**  The default converter converts short GBK names without a zero
    byte, and two of them to the same form exactly if they have the same cells up to the two of the
    ideographic space.  Different names without its spare cell are shown differently. -/
theorem toUtf8_default_eq_iff {b₁ b₂ : Bytes} (h₁ : isGbkName b₁ = true) (h₂ : isGbkName b₂ = true)
    (hzero₁ : 0 ∉ b₁) (hzero₂ : 0 ∉ b₂) (hlen₁ : b₁.length ≤ 32) (hlen₂ : b₂.length ≤ 32) :
    ∃ cells₁ cells₂ u₁ u₂, Shape.cells? b₁ = some cells₁ ∧ Shape.cells? b₂ = some cells₂ ∧
      (Converter.default.toUtf8 b₁).value = .ok u₁ ∧
      (Converter.default.toUtf8 b₂).value = .ok u₂ ∧
      (u₁ = u₂ ↔ List.Forall₂ Gb18030.Alike cells₁ cells₂) ∧
      (b₁ ≠ b₂ → .pair 0xA3 0xA0 ∉ cells₁ → .pair 0xA3 0xA0 ∉ cells₂ → u₁ ≠ u₂) := by
  have hlabel : Charset.ofLabel? Converter.default.charset = some .gbk := by rfl
  -- A short name takes 48 bytes at most, so the default capacity cuts nothing off.
  have hcapacity : Converter.default.capacity = 512 := rfl
  obtain ⟨cells₁, s, hs, hu₁⟩ :=
    Converter.exists_toUtf8 hlabel (Or.inl rfl) h₁ hzero₁ (by omega)
  obtain ⟨cells₂, t, ht, hu₂⟩ :=
    Converter.exists_toUtf8 hlabel (Or.inl rfl) h₂ hzero₂ (by omega)
  refine ⟨cells₁, cells₂, _, _, hs.cells?_eq, ht.cells?_eq, hu₁, hu₂, ?_, ?_⟩
  · rw [Utf8.encode_inj]
    exact hs.text_eq_iff ht
  · intro hne hspare₁ hspare₂
    rw [Ne, Utf8.encode_inj]
    exact hs.text_ne ht hne hspare₁ hspare₂

/-- Two names of one pair each. -/
theorem toUtf8_default_eq_iff_pairs :
    isGbkName [0xD6, 0xD0] = true ∧ isGbkName [0xB9, 0xFA] = true ∧
      ∃ u₁ u₂, (Converter.default.toUtf8 [0xD6, 0xD0]).value = .ok u₁ ∧
        (Converter.default.toUtf8 [0xB9, 0xFA]).value = .ok u₂ ∧ u₁ ≠ u₂ := by
  have h₁ : isGbkName [0xD6, 0xD0] = true := by decide
  have h₂ : isGbkName [0xB9, 0xFA] = true := by decide
  obtain ⟨cells₁, cells₂, u₁, u₂, hcells₁, hcells₂, hu₁, hu₂, -, hne⟩ :=
    toUtf8_default_eq_iff h₁ h₂ (by decide) (by decide) (by decide) (by decide)
  have hspare₁ : .pair 0xA3 0xA0 ∉ cells₁ := by
    obtain rfl : [.pair 0xD6 0xD0] = cells₁ := Option.some.inj hcells₁
    simp
  have hspare₂ : .pair 0xA3 0xA0 ∉ cells₂ := by
    obtain rfl : [.pair 0xB9 0xFA] = cells₂ := Option.some.inj hcells₂
    simp
  exact ⟨h₁, h₂, u₁, u₂, hu₁, hu₂, hne (by decide) hspare₁ hspare₂⟩

/-- Two names that are shown alike, as an ideographic space: what is shown for the second one is
    driven as the first one. -/
theorem toUtf8_default_eq_of_spare :
    let r := (Registry.ofTranscoder Converter.default.transcoder false).run
      [.start, .display [0xA1, 0xA1], .display [0xA3, 0xA0]]
    isGbkName [0xA1, 0xA1] = true ∧ isGbkName [0xA3, 0xA0] = true ∧
      (Converter.default.toUtf8 [0xA1, 0xA1]).value = .ok (Utf8.encode ['\u3000']) ∧
      (Converter.default.toUtf8 [0xA3, 0xA0]).value = .ok (Utf8.encode ['\u3000']) ∧
      (r.driverName (Utf8.encode ['\u3000'])).value = [0xA1, 0xA1] := by
  exact ⟨by decide, by decide, by decide +kernel, by decide +kernel, by decide +kernel⟩

end WifiNames
