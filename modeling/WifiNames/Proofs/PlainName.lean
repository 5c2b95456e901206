import WifiNames.Proofs.Cut
import WifiNames.Proofs.Direction

namespace WifiNames

/-!
# Plain names — which ASCII names are driven as they are

A plain ASCII name is never converted, so it is driven as it is unless a GBK name is shown like
it.  No pair is read as ASCII, but what stands behind a zero byte of a name is not shown at all: a
name that begins with `a` and a zero byte is shown as `a`, whatever pairs come then.

* `Registry.exists_offered` — every raw name in a history was brought by some request.
* `Entry.Covers` — an entry whose raw name goes on behind a zero byte.
* `Entry.IsConversion.converted_eq_iff` — short names shown as plain ones are just those.
* `Registry.exists_driverName_of_covers` — an entry that covers a plain name takes it over.
* `driverName_plain` — which plain names are driven as something else, and as what.
* `driverName_plain_of_zero` — a scanned name that takes over another one.
-/

/-! ### What is offered -/

/-- **The origin of entries.** Every raw name in a history was brought by some request. -/
theorem Registry.exists_offered {r : Registry} (hr : r.history = none) {requests : List Request}
    {h : History} (hh : (r.run requests).history = some h) :
    ∀ e ∈ h.entries, ∃ q ∈ requests, e.raw ∈ q.offered := by
  obtain ⟨since, ⟨before, rfl, -⟩, hentries⟩ := exists_since_entries hr hh
  intro e he
  rw [hentries] at he
  obtain ⟨q, hq, hattempt⟩ := List.mem_flatMap.1 (mem_of_mem_firstPerRaw he)
  exact ⟨q, by simp [hq], (Request.of_mem_attempts hattempt).1⟩

/-! ### What is shown as a plain name -/

/-- An ASCII name is not a GBK name. -/
theorem isGbkName_of_low {a : Bytes} (ha : ∀ x ∈ a, x < 0x80) : isGbkName a = false := by
  cases hdouble : Shape.isDoubleByte a with
  | false => rw [isGbkName, hdouble, Bool.and_false]
  | true =>
    obtain ⟨x, hx, hhigh⟩ := List.any_eq_true.1 (Shape.hasHighByte_of_isDoubleByte hdouble)
    exact absurd (ha x hx) (UInt8.not_lt.2 (of_decide_eq_true hhigh))

/-- Whether the raw name of an entry goes on after `a` with the first zero byte in it. -/
def Entry.Covers (a : Bytes) (e : Entry) : Prop :=
  0 ∉ a ∧ ∃ rest, e.raw = a ++ 0 :: rest

namespace Entry.IsConversion

/-- **Names shown as plain ones.** A short GBK name is shown as the ASCII name `a` exactly if it
    goes on after `a` with a zero byte. -/
theorem converted_eq_iff {e : Entry} (h : e.IsConversion Converter.default.transcoder) (hlen : e.raw.length ≤ 32)
    {a : Bytes} (ha : ∀ x ∈ a, x < 0x80) : e.converted = a ↔ e.Covers a := by
  have hgbk : isGbkName e.raw = true := h.1
  have hlabel : Charset.ofLabel? Converter.default.charset = some .gbk := by rfl
  obtain ⟨cells, text, hreads, hvalue⟩ :=
    Converter.default.exists_readsByCell hlabel (Or.inl rfl) hgbk
  -- A short name takes 48 bytes at most, so the default capacity cuts nothing off.
  have hroom : Utf8.length text ≤ Converter.default.capacity := by
    have hle := hreads.length_encode_le
    have hcapacity : Converter.default.capacity = 512 := rfl
    rw [Utf8.length_encode] at hle
    omega
  have hconverted : e.converted = Utf8.encode (Converter.beforeNul text) := by
    rw [Converter.shown_eq_beforeNul hroom] at hvalue
    exact Except.ok.inj (h.2.symm.trans hvalue)
  rw [hconverted]
  constructor
  · intro heq
    have hkept : beforeZero e.raw = a := by
      rw [← hreads.encode_of_low (heq ▸ ha), heq]
    refine ⟨hkept ▸ zero_notMem_beforeZero e.raw, ?_⟩
    rcases beforeZero_eq_or e.raw with hall | ⟨rest, hrest⟩
    · -- Without a zero byte the name itself would be ASCII.
      rw [hkept] at hall
      rw [← hall, isGbkName_of_low ha] at hgbk
      cases hgbk
    · exact ⟨rest, by rw [← hkept]; exact hrest⟩
  · rintro ⟨hzero, rest, hraw⟩
    have hkept : beforeZero e.raw = a := by rw [hraw, beforeZero_append_zero hzero]
    rw [hreads.encode_of_low (hreads.low_iff.2 (hkept.symm ▸ ha)), hkept]

end Entry.IsConversion

/-! ### Driving a plain name -/

namespace Registry

/-- Outside of a session every name is driven as it is. -/
theorem driverName_of_closed {r : Registry} (hr : r.history = none) (chosen : Bytes) :
    (r.driverName chosen).value = chosen := by
  refine driverName_of_fallback (Or.inr ⟨.notInitialized, ?_⟩)
  rw [value_lookup, hr]

/-- A name that nothing was converted to is driven as it is. -/
theorem driverName_of_forall_ne {r : Registry} {h : History} (hh : r.history = some h)
    {chosen : Bytes} (hgbk : isGbkName chosen = false)
    (hnone : ∀ e ∈ h.entries, e.converted ≠ chosen) : (r.driverName chosen).value = chosen := by
  refine driverName_of_fallback (Or.inr ⟨.notFound, ?_⟩)
  have hfind : h.entries.find? (·.converted == chosen) = none := by simpa using hnone
  rw [value_lookup, hh]
  simp [History.lookup?, hgbk, hfind]

/-- In a session of gated requests with short names, the entries shown as the ASCII name `a` are
    those that cover it. -/
theorem converted_iff_covers {dumps : Bool} {requests : List Request}
    (hgated : ∀ q ∈ requests, q.IsGated)
    (hshort : ∀ q ∈ requests, ∀ raw ∈ q.offered, raw.length ≤ 32) {a : Bytes}
    (ha : ∀ x ∈ a, x < 0x80) {entries : List Entry}
    (hentries : ((ofTranscoder Converter.default.transcoder dumps).run requests).entries =
      .ok entries) :
    ∀ e ∈ entries, (e.converted = a ↔ e.Covers a) := by
  have hr : IsGated _ ((ofTranscoder Converter.default.transcoder dumps).run requests) :=
    ⟨dumps, requests, hgated, rfl⟩
  obtain ⟨h, hh, rfl⟩ := entries_eq_ok_iff.1 hentries
  intro e he
  obtain ⟨q, hq, hraw⟩ := exists_offered rfl hh e he
  exact (hr.isConversion hh e he).converted_eq_iff (hshort q hq _ hraw) ha

variable {r : Registry} {a : Bytes}

/-- A name that no entry covers is driven as it is. -/
theorem driverName_of_not_covers (hgbk : isGbkName a = false)
    (hcovers : ∀ entries, r.entries = .ok entries →
      ∀ e ∈ entries, (e.converted = a ↔ e.Covers a))
    (hnone : ∀ entries, r.entries = .ok entries → ∀ e ∈ entries, ¬ e.Covers a) :
    (r.driverName a).value = a := by
  -- Without a session there are no entries to speak of.
  cases hh : r.history with
  | none => exact driverName_of_closed hh a
  | some h =>
    have hentries : r.entries = .ok h.entries := entries_eq_ok_iff.2 ⟨h, hh, rfl⟩
    refine driverName_of_forall_ne hh hgbk fun e he => ?_
    rw [Ne, hcovers _ hentries e he]
    exact hnone _ hentries e he

/-- A name that entries cover is driven as the raw name of the earliest of them. -/
theorem exists_driverName_of_covers (hgbk : isGbkName a = false) {entries : List Entry}
    (hentries : r.entries = .ok entries)
    (hcovers : ∀ e ∈ entries, (e.converted = a ↔ e.Covers a)) (hcover : ∃ e ∈ entries, e.Covers a) :
    ∃ first, IsEarliest entries a first ∧ first.Covers a ∧ (r.driverName a).value = first.raw := by
  obtain ⟨e, he, hcover⟩ := hcover
  obtain ⟨h, hh, rfl⟩ := entries_eq_ok_iff.1 hentries
  obtain rfl : e.converted = a := (hcovers e he).2 hcover
  obtain ⟨first, hfirst, hdrives⟩ := driverName_converted hh he hgbk
  exact ⟨first, hfirst, (hcovers first hfirst.mem).1 hfirst.1, hdrives [] List.not_mem_nil⟩

end Registry

/-- **Driving a plain name.**  After gated requests with names as short as names are, an ASCII name
    is driven as it is exactly if no raw name in the history goes on after it with a zero byte.
    Otherwise the earliest such raw name is driven.  So nothing takes over an ASCII name as long
    as no name with a zero byte is offered. -/
theorem driverName_plain {dumps : Bool} {requests : List Request}
    (hgated : ∀ q ∈ requests, q.IsGated)
    (hshort : ∀ q ∈ requests, ∀ raw ∈ q.offered, raw.length ≤ 32) {a : Bytes}
    (ha : ∀ x ∈ a, x < 0x80) :
    let r := (Registry.ofTranscoder Converter.default.transcoder dumps).run requests
    ((r.driverName a).value = a ↔
      ∀ entries, r.entries = .ok entries → ∀ e ∈ entries, ¬ e.Covers a) ∧
    (∀ entries, r.entries = .ok entries → (∃ e ∈ entries, e.Covers a) →
      ∃ first, IsEarliest entries a first ∧ first.Covers a ∧
        (r.driverName a).value = first.raw) ∧
    ((∀ q ∈ requests, ∀ raw ∈ q.offered, 0 ∉ raw) → (r.driverName a).value = a) := by
  intro r
  have hr : r.IsGated Converter.default.transcoder := ⟨dumps, requests, hgated, rfl⟩
  have hgbk : isGbkName a = false := isGbkName_of_low ha
  have hcovers : ∀ entries, r.entries = .ok entries →
      ∀ e ∈ entries, (e.converted = a ↔ e.Covers a) :=
    fun _ hentries => Registry.converted_iff_covers hgated hshort ha hentries
  have hfree := Registry.driverName_of_not_covers hgbk hcovers
  have htaken : ∀ entries, r.entries = .ok entries → (∃ e ∈ entries, e.Covers a) →
      ∃ first, IsEarliest entries a first ∧ first.Covers a ∧ (r.driverName a).value = first.raw :=
    fun _ hentries => Registry.exists_driverName_of_covers hgbk hentries (hcovers _ hentries)
  refine ⟨⟨?_, hfree⟩, htaken, ?_⟩
  · intro hdriven entries hentries e he hcover
    obtain ⟨first, hfirst, -, hvalue⟩ := htaken entries hentries ⟨e, he, hcover⟩
    obtain ⟨h, hh, rfl⟩ := Registry.entries_eq_ok_iff.1 hentries
    -- The raw name of an entry is a GBK name, which `a` is not.
    have hraw := (hr.isConversion hh first hfirst.mem).1
    rw [← hvalue, hdriven, hgbk] at hraw
    cases hraw
  · intro hzero
    refine hfree fun entries hentries e he hcover => ?_
    obtain ⟨h, hh, rfl⟩ := Registry.entries_eq_ok_iff.1 hentries
    obtain ⟨q, hq, hraw⟩ := Registry.exists_offered rfl hh e he
    -- An entry that covers `a` has a zero byte, and some request has brought it.
    obtain ⟨-, rest, hrest⟩ := hcover
    refine hzero q hq _ hraw ?_
    rw [hrest]
    exact List.mem_append_right a List.mem_cons_self

/-- A name that goes on after `A` with a zero byte, and a pair: `A` is driven as that name, and
    `B` as it is. -/
theorem driverName_plain_after_zero :
    let requests : List Request := [.start, .display [0x41, 0, 0xD6, 0xD0], .display [0xD6, 0xD0]]
    let r := (Registry.ofTranscoder Converter.default.transcoder false).run requests
    (∀ q ∈ requests, q.IsGated) ∧ (∀ q ∈ requests, ∀ raw ∈ q.offered, raw.length ≤ 32) ∧
      (∃ first : Entry, first.Covers [0x41] ∧ (r.driverName [0x41]).value = first.raw) ∧
      (r.driverName [0x42]).value = [0x42] := by
  intro requests r
  have hgated : ∀ q ∈ requests, q.IsGated := by simp [requests, Request.IsGated]
  have hshort : ∀ q ∈ requests, ∀ raw ∈ q.offered, raw.length ≤ 32 := by
    simp [requests, Request.offered]
  have hentries : r.entries = .ok [⟨[0x41, 0, 0xD6, 0xD0], [0x41]⟩,
      ⟨[0xD6, 0xD0], [0xE4, 0xB8, 0xAD]⟩] := by
    decide +kernel
  have hA : ∀ x ∈ ([0x41] : Bytes), x < 0x80 := List.forall_mem_singleton.2 (by decide)
  have hB : ∀ x ∈ ([0x42] : Bytes), x < 0x80 := List.forall_mem_singleton.2 (by decide)
  obtain ⟨-, htaken, -⟩ := @driverName_plain false requests hgated hshort [0x41] hA
  obtain ⟨hfree, -, -⟩ := @driverName_plain false requests hgated hshort [0x42] hB
  obtain ⟨first, -, hcover, hvalue⟩ :=
    htaken _ hentries ⟨_, List.mem_cons_self, by decide, [0xD6, 0xD0], rfl⟩
  refine ⟨hgated, hshort, ⟨first, hcover, hvalue⟩, hfree.2 ?_⟩
  rintro entries hentries' e he ⟨-, rest, hrest⟩
  obtain rfl := Except.ok.inj (hentries'.symm.trans hentries)
  simp only [List.mem_cons, List.not_mem_nil, or_false] at he
  rcases he with rfl | rfl <;> simp at hrest

/-- A scanned name that takes over another one: the plain name `A` is shown as it is, but driven as
    the GBK name that was scanned. -/
theorem driverName_plain_of_zero :
    let name : Bytes := [0x41, 0, 0xD6, 0xD0]
    let r := (Registry.ofTranscoder Converter.default.transcoder false).run [.start, .display name]
    r.IsGated Converter.default.transcoder ∧ name.length ≤ 32 ∧ isGbkName name = true ∧
      (r.displayName [0x41]).value.1 = [0x41] ∧ (r.driverName [0x41]).value = name := by
  intro name r
  have hr : r.IsGated Converter.default.transcoder :=
    (Registry.IsGated.ofTranscoder _ false).run (by simp [Request.IsGated])
  exact ⟨hr, by decide, by decide, by decide, by decide +kernel⟩

end WifiNames
