import WifiNames.Proofs.Converter
import WifiNames.Proofs.History
import WifiNames.Registry.Request

namespace WifiNames

open Scan

/-!
# Registries — what each operation does

What a registry does to its history is one thing only: it remembers pairs.  Each operation gets
its answer and the pairs that it attempts to remember, without the notes.

* `Transcoder.conversions`, `Transcoder.gbkConversions` — the pair that a conversion attempts to
  remember, and the same for operations that convert GBK names only.
* `Request.attempts`, `Request.offered` — the pairs that a request attempts to remember, and the
  names that it brings.
* `Request.of_mem_attempts` — where those pairs come from.
* `Registry.remember` — the registry after such attempts.
* `Registry.answer_snd` — **the step**: a request opens a session, ends it, or remembers its
  attempts.
-/

/-- The pair that a conversion attempts to remember: none if the transcoder fails. -/
def Transcoder.conversions (t : Transcoder) (raw : Bytes) : List Entry :=
  (t.convert? raw).toList.map (⟨raw, ·⟩)

/-- The pair that is attempted if only GBK names are converted. -/
def Transcoder.gbkConversions (t : Transcoder) (raw : Bytes) : List Entry :=
  if isGbkName raw then t.conversions raw else []

/-- The pairs that a request attempts to remember, in order. -/
def Request.attempts (t : Transcoder) : Request → List Entry
  | .record raw converted => [⟨raw, converted⟩]
  | .convert raw => t.conversions raw
  | .display raw | .report _ raw => t.gbkConversions raw
  | .annotate _ line => (names line).flatMap fun s => s.raw.toList.flatMap t.gbkConversions
  | _ => []

/-- The raw names that a request brings with it. -/
def Request.offered : Request → List Bytes
  | .convert raw | .record raw _ | .display raw | .report _ raw => [raw]
  | .annotate _ line => (names line).flatMap (·.raw.toList)
  | _ => []

/-! ### Attempts -/

theorem Transcoder.of_mem_conversions {t : Transcoder} {raw : Bytes} {e : Entry}
    (he : e ∈ t.conversions raw) : e.raw = raw ∧ (t.toUtf8 e.raw).value = .ok e.converted := by
  obtain ⟨converted, hmem, rfl⟩ := List.mem_map.1 he
  rw [Option.mem_toList, convert?_eq_some_iff] at hmem
  exact ⟨rfl, hmem⟩

theorem Transcoder.of_mem_gbkConversions {t : Transcoder} {raw : Bytes} {e : Entry}
    (he : e ∈ t.gbkConversions raw) : isGbkName raw = true ∧ e ∈ t.conversions raw := by
  rw [gbkConversions] at he
  split at he
  · rename_i hgbk
    exact ⟨hgbk, he⟩
  · exact absurd he List.not_mem_nil

/-- **Where pairs come from.** A request attempts to remember names that it brings, each with the
    form that the caller has made up or with what the transcoder makes of it.  Unless the request is
    to convert just that name, a name with its conversion is a GBK name. -/
theorem Request.of_mem_attempts {t : Transcoder} {q : Request} {e : Entry}
    (he : e ∈ q.attempts t) :
    e.raw ∈ q.offered ∧ (q = .record e.raw e.converted ∨
      (t.toUtf8 e.raw).value = .ok e.converted ∧
        (q = .convert e.raw ∨ isGbkName e.raw = true)) := by
  cases q with
  | record raw converted =>
    rw [List.mem_singleton.1 he]
    exact ⟨List.mem_singleton_self raw, Or.inl rfl⟩
  | convert raw =>
    obtain ⟨rfl, hconverted⟩ := Transcoder.of_mem_conversions he
    exact ⟨List.mem_singleton_self e.raw, Or.inr ⟨hconverted, Or.inl rfl⟩⟩
  -- These convert GBK names only, so whatever is attempted is one.
  | display raw | report input raw =>
    obtain ⟨hgbk, he⟩ := Transcoder.of_mem_gbkConversions he
    obtain ⟨rfl, hconverted⟩ := Transcoder.of_mem_conversions he
    exact ⟨List.mem_singleton_self e.raw, Or.inr ⟨hconverted, Or.inr hgbk⟩⟩
  | annotate style line =>
    obtain ⟨s, hs, he⟩ := List.mem_flatMap.1 he
    obtain ⟨raw, hraw, he⟩ := List.mem_flatMap.1 he
    obtain ⟨hgbk, he⟩ := Transcoder.of_mem_gbkConversions he
    obtain ⟨rfl, hconverted⟩ := Transcoder.of_mem_conversions he
    exact ⟨List.mem_flatMap.2 ⟨s, hs, hraw⟩, Or.inr ⟨hconverted, Or.inr hgbk⟩⟩
  | start | stop | classify | lookup | driver | entries | isEmpty | dump =>
    exact absurd he List.not_mem_nil

namespace Registry

/-! ### Remembering -/

/-- The registry after it was to remember pairs; outside of a session it stays as it is. -/
def remember (r : Registry) (pairs : List Entry) : Registry :=
  r.withHistory (r.history.map (·.addAll pairs))

@[simp] theorem transcoder_remember (r : Registry) (pairs : List Entry) :
    (r.remember pairs).transcoder = r.transcoder := rfl

@[simp] theorem history_remember (r : Registry) (pairs : List Entry) :
    (r.remember pairs).history = r.history.map (·.addAll pairs) := rfl

@[simp] theorem remember_nil (r : Registry) : r.remember [] = r := by
  cases r with
  | mk transcoder dumps history => cases history <;> rfl

theorem remember_append (r : Registry) (a b : List Entry) :
    r.remember (a ++ b) = (r.remember a).remember b := by
  cases r with
  | mk transcoder dumps history =>
    cases history with
    | none => rfl
    | some h => simp [remember, withHistory, History.addAll_append]

/-- To remember the same pairs again changes nothing. -/
theorem remember_remember_self (r : Registry) (pairs : List Entry) :
    (r.remember pairs).remember pairs = r.remember pairs := by
  cases r with
  | mk transcoder dumps history =>
    cases history with
    | none => rfl
    | some h => simp [remember, withHistory, History.addAll_addAll_self]

/-- To remember pairs whose raw names have entries changes nothing. -/
theorem remember_of_knows {r : Registry} {h : History} (hh : r.history = some h)
    {pairs : List Entry} (hknown : ∀ e ∈ pairs, h.knows e.raw = true) : r.remember pairs = r := by
  unfold remember
  rw [hh, Option.map_some, History.addAll_of_knows hknown, ← hh]
  rfl

/-- Where there is a history, a session is open. -/
theorem isStarted_of_history {r : Registry} {h : History} (hh : r.history = some h) :
    r.isStarted = true := by
  rw [isStarted, hh, Option.isSome_some]

/-- What is remembered leaves a session open or closed. -/
@[simp] theorem isStarted_remember (r : Registry) (pairs : List Entry) :
    (r.remember pairs).isStarted = r.isStarted :=
  Option.isSome_map

/-- Outside of a session nothing is remembered. -/
theorem remember_of_isStarted {r : Registry} (hr : r.isStarted = false) (pairs : List Entry) :
    r.remember pairs = r := by
  cases r with
  | mk transcoder dumps history =>
    cases history with
    | none => rfl
    | some h => cases hr

/-! ### Operations -/

/-- A pair is remembered within a session only. -/
theorem value_record (r : Registry) (raw converted : Bytes) :
    (r.record raw converted).value =
      (if r.isStarted then .ok () else .error .notInitialized, r.remember [⟨raw, converted⟩]) := by
  cases r with
  | mk transcoder dumps history =>
    cases history with
    | none => rfl
    | some h =>
      simp only [record, Noted.value_bind, History.value_insert]
      cases h.knows raw <;> rfl

/-- A conversion that succeeds is remembered. -/
theorem value_convert (r : Registry) (raw : Bytes) :
    (r.convert raw).value =
      match (r.transcoder.toUtf8 raw).value with
      | .error e => (.error (.conversion e), r)
      | .ok converted =>
        (if r.isStarted then .ok converted else .error .notInitialized,
          r.remember [⟨raw, converted⟩]) := by
  rw [convert, Noted.value_bind]
  cases (r.transcoder.toUtf8 raw).value with
  | error e => rfl
  | ok converted =>
    simp only [Noted.value_bind, value_record]
    cases r.isStarted with
    | false => rfl
    | true =>
      simp only [if_true]
      split <;> rfl

/-- If the transcoder succeeds, only the want of a session can fail a conversion. -/
theorem convert_of_ok {r : Registry} {raw u : Bytes}
    (hu : (r.transcoder.toUtf8 raw).value = .ok u) : (r.convert raw).value =
      (if r.isStarted then .ok u else .error .notInitialized, r.remember [⟨raw, u⟩]) := by
  rw [value_convert, hu]

/-- A conversion succeeds with its transcoder, and within a session only. -/
theorem ok_of_convert {r : Registry} {raw u : Bytes} (h : (r.convert raw).value.1 = .ok u) :
    (r.transcoder.toUtf8 raw).value = .ok u ∧ r.isStarted = true := by
  rw [value_convert] at h
  cases hconvert : (r.transcoder.toUtf8 raw).value with
  | error e => rw [hconvert] at h; cases h
  | ok converted =>
    rw [hconvert] at h
    -- The transcoder alone is not enough: without a session the answer is an error.
    cases hr : r.isStarted with
    | false => rw [hr] at h; cases h
    | true =>
      rw [hr] at h
      simp only [if_true, Except.ok.injEq] at h
      exact ⟨congrArg _ h, rfl⟩

/-- A conversion that fails changes nothing. -/
theorem convert_snd_of_error {r : Registry} {raw : Bytes} {e : Error}
    (h : (r.convert raw).value.1 = .error e) : (r.convert raw).value.2 = r := by
  rw [value_convert] at h ⊢
  -- It fails with the transcoder, or for want of a session, where nothing is remembered.
  cases hconvert : (r.transcoder.toUtf8 raw).value with
  | error _ => rfl
  | ok converted =>
    rw [hconvert] at h
    cases hr : r.isStarted with
    | false => exact remember_of_isStarted hr _
    | true => rw [hr] at h; cases h

/-- What a look-up answers. -/
theorem value_lookup (r : Registry) (query : Bytes) :
    (r.lookup query).value =
      match r.history with
      | none => .error .notInitialized
      | some h => (h.lookup? query).elim (.error .notFound) .ok := by
  rw [lookup]
  cases r.history with
  | none => rfl
  | some h =>
    cases hfind : h.lookup? query with
    | none => simp only [hfind]; rfl
    | some found => simp only [hfind]; rfl

/-- A registry finds what the history of its session does. -/
theorem lookup_eq_ok_iff {r : Registry} {query found : Bytes} :
    (r.lookup query).value = .ok found ↔
      ∃ h, r.history = some h ∧ h.lookup? query = some found := by
  rw [value_lookup]
  cases r.history with
  | none => simp
  | some h => cases hfind : h.lookup? query <;> simp [hfind]

/-- What a name finds in the history of the session, it finds in the registry. -/
theorem lookup_of_history {r : Registry} {h : History} (hr : r.history = some h)
    {query found : Bytes} (hfound : h.lookup? query = some found) :
    (r.lookup query).value = .ok found :=
  lookup_eq_ok_iff.2 ⟨h, hr, hfound⟩

/-- What a name does not find in the history of the session, it does not find in the registry. -/
theorem lookup_of_history_of_none {r : Registry} {h : History} (hr : r.history = some h)
    {query : Bytes} (hnone : h.lookup? query = none) :
    (r.lookup query).value = .error .notFound := by
  rw [value_lookup, hr]
  show (h.lookup? query).elim _ _ = _
  rw [hnone]
  rfl

/-- The entries of a registry are those of its session. -/
theorem entries_eq_ok_iff {r : Registry} {l : List Entry} :
    r.entries = .ok l ↔ ∃ h, r.history = some h ∧ h.entries = l := by
  rw [entries]
  cases r.history <;> simp

/-- What is shown for a raw name. -/
theorem value_displayName (r : Registry) (raw : Bytes) :
    (r.displayName raw).value =
      if isGbkName raw then ((r.convert raw).value.1.toOption.getD raw, (r.convert raw).value.2)
      else (raw, r) := by
  rw [displayName]
  split
  · rw [Noted.value_bind]
    rcases (r.convert raw).value with ⟨outcome, r'⟩
    cases outcome <;> rfl
  · rfl

/-- What is handed to the driver for a chosen name. -/
theorem value_driverName (r : Registry) (chosen : Bytes) :
    (r.driverName chosen).value =
      if isGbkName chosen then chosen else (r.lookup chosen).value.toOption.getD chosen := by
  rw [driverName, Noted.value_bind]
  cases (r.lookup chosen).value with
  | error e => cases e <;> cases isGbkName chosen <;> rfl
  | ok found => cases isGbkName chosen <;> rfl

/-! ### Annotation -/

/-- What becomes of a typed name. -/
theorem value_report (r : Registry) (input : Text) (raw : Bytes) :
    (r.report input raw).value =
      if isGbkName raw then
        (⟨input, raw, some (r.convert raw).value.1⟩, (r.convert raw).value.2)
      else (⟨input, raw, none⟩, r) := by
  rw [report]
  split <;> rfl

/-- The registry after a conversion. -/
theorem convert_snd (r : Registry) (raw : Bytes) :
    (r.convert raw).value.2 = r.remember (r.transcoder.conversions raw) := by
  rw [value_convert, Transcoder.conversions, Transcoder.convert?]
  cases (r.transcoder.toUtf8 raw).value with
  | error e => exact (remember_nil r).symm
  | ok converted => rfl

/-- The registry after a GBK name is converted and any other left alone. -/
theorem gbk_convert_snd (r : Registry) (raw : Bytes) :
    (if isGbkName raw then (r.convert raw).value.2 else r) =
      r.remember (r.transcoder.gbkConversions raw) := by
  rw [Transcoder.gbkConversions]
  split
  · exact convert_snd r raw
  · exact (remember_nil r).symm

/-- The registry after a name is shown. -/
theorem displayName_snd (r : Registry) (raw : Bytes) :
    (r.displayName raw).value.2 = r.remember (r.transcoder.gbkConversions raw) := by
  rw [value_displayName, ← gbk_convert_snd]
  exact apply_ite _ _ _ _

/-- The registry after a report. -/
theorem report_snd (r : Registry) (input : Text) (raw : Bytes) :
    (r.report input raw).value.2 = r.remember (r.transcoder.gbkConversions raw) := by
  rw [value_report, ← gbk_convert_snd]
  exact apply_ite _ _ _ _

/-- The registry after the name of a segment is annotated. -/
theorem annotateName_snd (r : Registry) (s : Segment) (raw : Bytes) :
    (r.annotateName s raw).value.2 = r.remember (r.transcoder.gbkConversions raw) := by
  rw [← gbk_convert_snd, annotateName]
  split
  · rw [Noted.value_bind]
    rcases (r.convert raw).value with ⟨outcome, r'⟩
    cases outcome <;> rfl
  · rfl

/-- The registry after a segment is annotated. -/
theorem annotateSegment_snd (r : Registry) (s : Segment) :
    (r.annotateSegment s).value.2 =
      r.remember (s.raw.toList.flatMap r.transcoder.gbkConversions) := by
  rw [annotateSegment]
  cases s.raw with
  | none => exact (remember_nil r).symm
  | some raw =>
    rw [Option.toList_some, List.flatMap_singleton]
    exact annotateName_snd r s raw

/-- The registry after segments are annotated, from left to right. -/
theorem annotateSegments_snd (r : Registry) (segments : List Segment) :
    (r.annotateSegments segments).value.2 = r.remember
      (segments.flatMap fun s => s.raw.toList.flatMap r.transcoder.gbkConversions) := by
  induction segments generalizing r with
  | nil => exact (remember_nil r).symm
  | cons s rest ih =>
    have hstep := annotateSegment_snd r s
    rw [annotateSegments, List.flatMap_cons, remember_append, ← hstep]
    have hrest := ih (r.annotateSegment s).value.2
    rw [hstep, transcoder_remember, ← hstep] at hrest
    exact hrest

/-! ### The step -/

/-- Opening a session within a session changes nothing. -/
theorem value_start (r : Registry) :
    r.start.value = r.withHistory (some (r.history.getD .empty)) := by
  cases r with
  | mk transcoder dumps history => cases history <;> rfl

theorem value_stop (r : Registry) : r.stop.value = r.withHistory none := by
  cases r with
  | mk transcoder dumps history => cases history <;> rfl

/-- **The step.** A request opens a session, ends it, or remembers what it attempts to. -/
theorem answer_snd (r : Registry) (request : Request) :
    (r.answer request).value.2 =
      match request with
      | .start => r.withHistory (some (r.history.getD .empty))
      | .stop => r.withHistory none
      | request => r.remember (request.attempts r.transcoder) := by
  cases request with
  | start => exact value_start r
  | stop => exact value_stop r
  | convert raw => exact convert_snd r raw
  | record raw converted => exact congrArg Prod.snd (value_record r raw converted)
  | display raw => exact displayName_snd r raw
  | report input raw => exact report_snd r input raw
  | annotate style line => exact annotateSegments_snd r (names line)
  | classify | lookup | driver | entries | isEmpty | dump => exact (remember_nil r).symm

end Registry

end WifiNames
