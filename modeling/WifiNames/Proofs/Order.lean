import WifiNames.Proofs.Session

namespace WifiNames

/-!
# Order — names that are converted in another order

The outcome of a conversion depends on the name alone, and so does the pair that is remembered.
So a session that converts the same names in another order answers the same, remembers the same
pairs in another order, and knows the same names in both directions.  Only which of several names
with one converted form is found for that form depends on the order.

* `Registry.convertAll` — converts names one after the other.
* `Transcoder.outcome`, `Transcoder.historyOf` — what a conversion in a session answers, and what
  conversions leave behind.
* `firstPerRaw_perm` — where no two pairs for one raw name differ, the order does not decide which
  pairs are kept.
* `History.lookup?_eq_of_perm`, `History.lookup?_eq_none_or_of_perm` — look-ups in another order.
* `convertAll_perm` — two sessions that convert the same names.
-/

/-- What the conversion of a name answers within a session. -/
def Transcoder.outcome (t : Transcoder) (raw : Bytes) : Except Error Bytes :=
  (t.toUtf8 raw).value.mapError .conversion

/-- The history of a session that converts names and does nothing else. -/
def Transcoder.historyOf (t : Transcoder) (names : List Bytes) : History :=
  ⟨firstPerRaw (names.flatMap t.conversions)⟩

/-- Converts names one after the other.  Answers the outcomes in order, and the registry
    afterwards. -/
def Registry.convertAll (r : Registry) : List Bytes → List (Except Error Bytes) × Registry
  | [] => ([], r)
  | raw :: rest =>
    let (outcome, r) := (r.convert raw).value
    let (outcomes, r) := r.convertAll rest
    (outcome :: outcomes, r)

/-! ### Conversions one after the other -/

namespace Registry

/-- Within a session the outcome of a conversion depends on the name alone. -/
theorem convert_fst_of_open {r : Registry} (hopen : r.isStarted = true) (raw : Bytes) :
    (r.convert raw).value.1 = r.transcoder.outcome raw := by
  rw [value_convert, Transcoder.outcome]
  cases (r.transcoder.toUtf8 raw).value with
  | error e => rfl
  | ok u =>
    show (if r.isStarted then _ else _) = _
    rw [if_pos hopen]
    rfl

/-- **The outcomes.** Within a session every conversion answers as if it were the only one. -/
theorem convertAll_fst {r : Registry} (hopen : r.isStarted = true) (names : List Bytes) :
    (r.convertAll names).1 = names.map r.transcoder.outcome := by
  induction names generalizing r with
  | nil => rfl
  | cons raw rest ih =>
    -- A conversion leaves the session open and the transcoder what it was.
    have hafter := convert_snd r raw
    have hopen' : (r.convert raw).value.2.isStarted = true := by
      rw [hafter, isStarted_remember]
      exact hopen
    have hrest := ih hopen'
    rw [hafter, transcoder_remember, ← hafter] at hrest
    rw [List.map_cons, ← hrest, ← convert_fst_of_open hopen]
    rfl

/-- The registry afterwards is the one that the same requests leave. -/
theorem convertAll_snd (r : Registry) (names : List Bytes) :
    (r.convertAll names).2 = r.run (names.map .convert) := by
  induction names generalizing r with
  | nil => rfl
  | cons raw rest ih =>
    rw [List.map_cons, run_cons]
    exact ih (r.convert raw).value.2

/-- **The history afterwards.** A session that was empty holds the first conversion of each name. -/
theorem history_convertAll {r : Registry} (hr : r.history = some .empty) (names : List Bytes) :
    (r.convertAll names).2.history = some (r.transcoder.historyOf names) := by
  have hstop : .stop ∉ names.map Request.convert := by simp
  rw [convertAll_snd, history_run_of_stop_notMem hr hstop, History.empty_addAll, List.flatMap_map]
  rfl

end Registry

/-! ### Pairs in another order -/

/-- Where no two pairs for one raw name differ, every pair is kept. -/
theorem mem_firstPerRaw_iff {pairs : List Entry}
    (hagree : ∀ e ∈ pairs, ∀ x ∈ pairs, x.raw = e.raw → x = e) {e : Entry} :
    e ∈ firstPerRaw pairs ↔ e ∈ pairs := by
  constructor
  · exact mem_of_mem_firstPerRaw
  · intro he
    cases hfind : pairs.find? (·.raw == e.raw) with
    | none => exact absurd BEq.rfl (List.find?_eq_none.1 hfind e he)
    | some x =>
      have hraw : x.raw = e.raw := by simpa using List.find?_some hfind
      -- The first pair with this raw name is kept, and all pairs with it are the same.
      obtain rfl : x = e := hagree e he x (List.mem_of_find?_eq_some hfind) hraw
      rw [← find?_firstPerRaw] at hfind
      exact List.mem_of_find?_eq_some hfind

/-- **What is kept in another order.** Where no two pairs for one raw name differ, the same pairs
    are kept in any order. -/
theorem firstPerRaw_perm {pairs pairs' : List Entry} (hperm : pairs'.Perm pairs)
    (hagree : ∀ e ∈ pairs, ∀ x ∈ pairs, x.raw = e.raw → x = e) :
    (firstPerRaw pairs').Perm (firstPerRaw pairs) := by
  have hagree' : ∀ e ∈ pairs', ∀ x ∈ pairs', x.raw = e.raw → x = e := by
    intro e he x hx
    exact hagree e (hperm.mem_iff.1 he) x (hperm.mem_iff.1 hx)
  -- No raw name is kept twice, so that it is enough to compare which pairs are kept.
  have hnodup := (nodup_firstPerRaw pairs).of_map
  have hnodup' := (nodup_firstPerRaw pairs').of_map
  rw [List.perm_ext_iff_of_nodup hnodup' hnodup]
  intro e
  rw [mem_firstPerRaw_iff hagree', mem_firstPerRaw_iff hagree, hperm.mem_iff]

/-! ### Look-ups in another order -/

namespace History

variable {h h' : History}

/-- A GBK name finds the same among the same entries in another order. -/
theorem lookup?_eq_of_perm (hnodup : (h.entries.map Entry.raw).Nodup)
    (hperm : h'.entries.Perm h.entries) {query : Bytes} (hgbk : isGbkName query = true) :
    h'.lookup? query = h.lookup? query := by
  have hnodup' : (h'.entries.map Entry.raw).Nodup := (hperm.map Entry.raw).nodup_iff.2 hnodup
  -- The one entry with this raw name is found on both sides.
  apply Option.ext
  intro found
  constructor
  · intro hfound
    obtain ⟨e, he, rfl, rfl⟩ := exists_mem_of_lookup?_raw hgbk hfound
    exact lookup?_raw hnodup (hperm.mem_iff.1 he) hgbk
  · intro hfound
    obtain ⟨e, he, rfl, rfl⟩ := exists_mem_of_lookup?_raw hgbk hfound
    exact lookup?_raw hnodup' (hperm.mem_iff.2 he) hgbk

/-- Any other name that finds something finds something among the same entries in another order. -/
theorem exists_lookup?_of_perm (hperm : h'.entries.Perm h.entries) {query found : Bytes}
    (hgbk : isGbkName query = false) (hfound : h.lookup? query = some found) :
    ∃ found', h'.lookup? query = some found' := by
  obtain ⟨e, he, rfl, -⟩ := exists_mem_of_lookup?_converted hgbk hfound
  obtain ⟨first, -, hfirst⟩ := exists_lookup?_converted (hperm.mem_iff.2 he) hgbk
  exact ⟨first.raw, hfirst⟩

/-- So it finds something in both orders or in neither. -/
theorem lookup?_eq_none_or_of_perm (hperm : h'.entries.Perm h.entries) {query : Bytes}
    (hgbk : isGbkName query = false) :
    (h.lookup? query = none ∧ h'.lookup? query = none) ∨
      ∃ found found', h.lookup? query = some found ∧ h'.lookup? query = some found' := by
  cases hfound : h.lookup? query with
  | some found =>
    obtain ⟨found', hfound'⟩ := exists_lookup?_of_perm hperm hgbk hfound
    exact Or.inr ⟨found, found', rfl, hfound'⟩
  | none =>
    cases hfound' : h'.lookup? query with
    | none => exact Or.inl ⟨rfl, rfl⟩
    | some found' =>
      obtain ⟨found, hback⟩ := exists_lookup?_of_perm hperm.symm hgbk hfound'
      rw [hfound] at hback
      cases hback

end History

/-! ### The same names in another order -/

namespace Transcoder

variable {t : Transcoder} {names names' : List Bytes}

/-- What names are converted to depends on them alone. -/
theorem converts_of_mem {e : Entry} (he : e ∈ names.flatMap t.conversions) :
    (t.toUtf8 e.raw).value = .ok e.converted := by
  obtain ⟨raw, -, he⟩ := List.mem_flatMap.1 he
  exact (of_mem_conversions he).2

/-- So no two conversions of one name differ. -/
theorem eq_of_mem_conversions {e x : Entry} (he : e ∈ names.flatMap t.conversions)
    (hx : x ∈ names.flatMap t.conversions) (hraw : x.raw = e.raw) : x = e := by
  have hconverted : x.converted = e.converted := by
    have hok := converts_of_mem hx
    rw [hraw, converts_of_mem he] at hok
    exact (Except.ok.inj hok).symm
  cases x
  cases e
  rw [Entry.mk.injEq]
  exact ⟨hraw, hconverted⟩

/-- The same names in another order leave the same entries in another order. -/
theorem historyOf_perm (hperm : names'.Perm names) :
    (t.historyOf names').entries.Perm (t.historyOf names).entries := by
  have hpairs : (names'.flatMap t.conversions).Perm (names.flatMap t.conversions) :=
    hperm.flatMap_right t.conversions
  exact firstPerRaw_perm hpairs fun e he x hx => eq_of_mem_conversions he hx

/-- A name that is no GBK name finds a name that is converted to it. -/
theorem converts_of_lookup? {query raw : Bytes} (hgbk : isGbkName query = false)
    (hfound : (t.historyOf names).lookup? query = some raw) :
    (t.toUtf8 raw).value = .ok query := by
  obtain ⟨e, he, rfl, rfl⟩ := History.exists_mem_of_lookup?_converted hgbk hfound
  exact converts_of_mem (mem_of_mem_firstPerRaw he)

end Transcoder

/-- **Another order.** Two sessions that were empty convert the same names in different orders.
    Every name has the same outcome in both, the histories hold the same entries, and every GBK name
    finds the same.  Any other name finds nothing in both, or names that are both converted to
    it. -/
theorem convertAll_perm {r : Registry} (hr : r.history = some .empty) {names names' : List Bytes}
    (hperm : names'.Perm names) :
    let one := r.convertAll names
    let other := r.convertAll names'
    (one.1 = names.map r.transcoder.outcome ∧ other.1 = names'.map r.transcoder.outcome) ∧
    (∃ entries entries', one.2.entries = .ok entries ∧ other.2.entries = .ok entries' ∧
      entries'.Perm entries) ∧
    (∀ query, isGbkName query = true →
      (other.2.lookup query).value = (one.2.lookup query).value) ∧
    ∀ query, isGbkName query = false →
      ((one.2.lookup query).value = .error .notFound ∧
        (other.2.lookup query).value = .error .notFound) ∨
      ∃ raw raw', (one.2.lookup query).value = .ok raw ∧ (other.2.lookup query).value = .ok raw' ∧
        (r.transcoder.toUtf8 raw).value = .ok query ∧
        (r.transcoder.toUtf8 raw').value = .ok query := by
  intro one other
  have hopen := Registry.isStarted_of_history hr
  have hone : one.2.history = some (r.transcoder.historyOf names) :=
    Registry.history_convertAll hr names
  have hother : other.2.history = some (r.transcoder.historyOf names') :=
    Registry.history_convertAll hr names'
  -- Two pairs for one raw name are both what the transcoder makes of it.
  have hentries := r.transcoder.historyOf_perm hperm
  refine ⟨⟨Registry.convertAll_fst hopen names, Registry.convertAll_fst hopen names'⟩, ?_, ?_, ?_⟩
  · exact ⟨_, _, Registry.entries_eq_ok_iff.2 ⟨_, hone, rfl⟩,
      Registry.entries_eq_ok_iff.2 ⟨_, hother, rfl⟩, hentries⟩
  · intro query hgbk
    have hsame : (r.transcoder.historyOf names').lookup? query =
        (r.transcoder.historyOf names).lookup? query :=
      History.lookup?_eq_of_perm (nodup_firstPerRaw _) hentries hgbk
    simp only [Registry.value_lookup, hone, hother, hsame]
  · intro query hgbk
    rcases History.lookup?_eq_none_or_of_perm hentries hgbk with
      ⟨hnone, hnone'⟩ | ⟨raw, raw', hfound, hfound'⟩
    · left
      exact ⟨Registry.lookup_of_history_of_none hone hnone,
        Registry.lookup_of_history_of_none hother hnone'⟩
    · right
      refine ⟨raw, raw', Registry.lookup_of_history hone hfound,
        Registry.lookup_of_history hother hfound', ?_, ?_⟩
      · exact Transcoder.converts_of_lookup? hgbk hfound
      · exact Transcoder.converts_of_lookup? hgbk hfound'

/-- Two names with one converted form, a repetition and a name that is rejected.  Which of the two
    is found for that form depends on the order. -/
theorem convertAll_perm_of_collision :
    let r := (Registry.ofTranscoder Converter.default.transcoder false).run [.start]
    let names : List Bytes := [[0xD6, 0xD0], [0xD6, 0xD0, 0], [0x41, 0xD6], [0xD6, 0xD0, 0]]
    let one := (r.convertAll names).2
    let other := (r.convertAll names.reverse).2
    r.history = some .empty ∧ names.reverse.Perm names ∧
      (one.lookup [0xE4, 0xB8, 0xAD]).value = .ok [0xD6, 0xD0] ∧
      (other.lookup [0xE4, 0xB8, 0xAD]).value = .ok [0xD6, 0xD0, 0] ∧
      (other.lookup [0xD6, 0xD0]).value = (one.lookup [0xD6, 0xD0]).value := by
  intro r names one other
  have hr : r.history = some .empty := rfl
  have hperm : names.reverse.Perm names := names.reverse_perm
  obtain ⟨-, -, hgbk, -⟩ := convertAll_perm hr hperm
  have hfound : (one.lookup [0xE4, 0xB8, 0xAD]).value = .ok [0xD6, 0xD0] := by decide +kernel
  have hfound' : (other.lookup [0xE4, 0xB8, 0xAD]).value = .ok [0xD6, 0xD0, 0] := by
    decide +kernel
  exact ⟨hr, hperm, hfound, hfound', hgbk _ (by decide)⟩

end WifiNames
