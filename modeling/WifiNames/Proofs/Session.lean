import Mathlib.Data.List.Induction
import WifiNames.Proofs.Registry

namespace WifiNames

/-!
# Sessions — a registry follows its log

The state of a registry is a function of the requests so far: whether a session is open, and
which pairs were attempted since it was opened.

* `InSession`, `SinceStart` — the two questions, asked of the requests alone.
* `Registry.history_run_of_stop_notMem` — within a session the history only grows, by the first
  pair for each new raw name.
* `Registry.isStarted_run_iff` — a session is open exactly if a `start` came after the last `stop`.
* `Registry.history_run` — the history of an open session.
* `Registry.FollowsLog`, `run_followsLog` — the whole refinement, with what failures leave alone.
-/

/-- Whether a session is open after requests: some `start` has no `stop` after it. -/
def InSession (requests : List Request) : Prop :=
  ∃ before since, requests = before ++ .start :: since ∧ .stop ∉ since

/-- The requests of the open session: those after the `start` that opened it. -/
def SinceStart (requests since : List Request) : Prop :=
  ∃ before, requests = before ++ .start :: since ∧ .stop ∉ since ∧ ¬ InSession before

/-! ### The log -/

theorem not_inSession_nil : ¬ InSession [] := by
  rintro ⟨before, since, h, -⟩
  simp at h

/-- What one more request means for the session. -/
theorem inSession_concat (requests : List Request) (q : Request) :
    InSession (requests ++ [q]) ↔ q = .start ∨ q ≠ .stop ∧ InSession requests := by
  constructor
  · rintro ⟨before, since, h, hstop⟩
    -- The new request is the `start` itself, or the last one after it.
    rcases List.eq_nil_or_concat since with rfl | ⟨since, p, rfl⟩
    · left
      exact List.head_eq_of_cons_eq (List.append_inj' h rfl).2
    · right
      rw [List.concat_eq_append] at h hstop
      rw [← List.cons_append, ← List.append_assoc] at h
      obtain ⟨hrequests, hq⟩ := List.append_inj' h rfl
      rw [List.mem_append, not_or] at hstop
      refine ⟨?_, before, since, hrequests, hstop.1⟩
      rintro rfl
      exact hstop.2 (hq ▸ List.mem_singleton_self _)
  · rintro (rfl | ⟨hq, before, since, rfl, hstop⟩)
    · exact ⟨requests, [], rfl, List.not_mem_nil⟩
    · refine ⟨before, since ++ [q], by simp, ?_⟩
      simp [hstop, hq.symm]

/-- A session that is open was opened by some `start`. -/
theorem exists_sinceStart {requests : List Request} (h : InSession requests) :
    ∃ since, SinceStart requests since := by
  obtain ⟨before, since, hsplit, hstop⟩ := h
  -- If a session was open already, the `start` changed nothing: look for an earlier one.
  induction hn : before.length using Nat.strong_induction_on generalizing before since with
  | h n ih =>
    by_cases hopen : InSession before
    · obtain ⟨earlier, more, rfl, hmore⟩ := hopen
      refine ih earlier.length ?_ earlier (more ++ .start :: since) ?_ ?_ rfl
      · rw [← hn, List.length_append, List.length_cons]
        omega
      · rw [hsplit, List.append_assoc, List.cons_append]
      · simp [hmore, hstop]
    · exact ⟨since, before, hsplit, hstop, hopen⟩

namespace Registry

/-! ### Runs -/

@[simp] theorem run_nil (r : Registry) : r.run [] = r := rfl

@[simp] theorem run_cons (r : Registry) (q : Request) (rest : List Request) :
    r.run (q :: rest) = (r.answer q).value.2.run rest := rfl

theorem run_append (r : Registry) (a b : List Request) : r.run (a ++ b) = (r.run a).run b :=
  List.foldl_append

/-- No request changes the transcoder. -/
theorem transcoder_answer (r : Registry) (q : Request) :
    (r.answer q).value.2.transcoder = r.transcoder := by
  rw [answer_snd]
  cases q <;> rfl

theorem transcoder_run (r : Registry) (requests : List Request) :
    (r.run requests).transcoder = r.transcoder := by
  induction requests generalizing r with
  | nil => rfl
  | cons q rest ih => rw [run_cons, ih, transcoder_answer]

/-- What one request does to the state of the session. -/
theorem isStarted_answer (r : Registry) (q : Request) :
    (r.answer q).value.2.isStarted = true ↔ q = .start ∨ q ≠ .stop ∧ r.isStarted = true := by
  rw [answer_snd]
  cases q <;> simp [isStarted, withHistory, remember]

/-- **Open or not.** A session is open exactly if a `start` came after the last `stop`. -/
theorem isStarted_run_iff {r : Registry} (hr : r.history = none) (requests : List Request) :
    (r.run requests).isStarted = true ↔ InSession requests := by
  -- The last request decides, so requests are taken off the end.
  induction requests using List.reverseRecOn with
  | nil => simp [isStarted, hr, not_inSession_nil]
  | append_singleton requests q ih =>
    rw [run_append, run_cons, run_nil, isStarted_answer, ih, inSession_concat]

/-- A request within a session other than `stop` adds its attempts to the history. -/
theorem history_answer {r : Registry} {h : History} (hr : r.history = some h) {q : Request}
    (hq : q ≠ .stop) :
    (r.answer q).value.2.history = some (h.addAll (q.attempts r.transcoder)) := by
  rw [answer_snd]
  cases q with
  | stop => exact absurd rfl hq
  | start => simp [withHistory, hr, Request.attempts]
  | _ => simp [hr]

/-- **Growth.** Within a session the history takes up all attempts in order. -/
theorem history_run_of_stop_notMem {r : Registry} {h : History} (hr : r.history = some h)
    {requests : List Request} (hstop : .stop ∉ requests) :
    (r.run requests).history =
      some (h.addAll (requests.flatMap (Request.attempts r.transcoder))) := by
  induction requests generalizing r h with
  | nil => exact hr
  | cons q rest ih =>
    obtain ⟨hq, hrest⟩ := not_or.1 (mt List.mem_cons.2 hstop)
    have hstep := history_answer hr (Ne.symm hq)
    rw [run_cons, ih hstep hrest, transcoder_answer, List.flatMap_cons, History.addAll_append]

/-- **The history of a session.** It holds the first pair for each raw name among those attempted
    since the session was opened. -/
theorem history_run {r : Registry} (hr : r.history = none) {requests since : List Request}
    (hsince : SinceStart requests since) :
    (r.run requests).history =
      some ⟨firstPerRaw (since.flatMap (Request.attempts r.transcoder))⟩ := by
  obtain ⟨before, rfl, hstop, hclosed⟩ := hsince
  -- Before the `start` no session is open, so that it opens an empty one.
  have hbefore : (r.run before).history = none := by
    rw [← isStarted_run_iff hr] at hclosed
    exact Option.not_isSome_iff_eq_none.1 hclosed
  have hopened : ((r.run before).answer .start).value.2.history = some .empty := by
    rw [answer_snd]
    simp [withHistory, hbefore]
  rw [run_append, run_cons, history_run_of_stop_notMem hopened hstop, transcoder_answer,
    transcoder_run, History.empty_addAll]

/-- Wherever there is a history, it is that of an open session. -/
theorem exists_since_entries {r : Registry} (hr : r.history = none) {requests : List Request}
    {h : History} (hh : (r.run requests).history = some h) :
    ∃ since, SinceStart requests since ∧
      h.entries = firstPerRaw (since.flatMap (Request.attempts r.transcoder)) := by
  have hopen : (r.run requests).isStarted = true := isStarted_of_history hh
  obtain ⟨since, hsince⟩ := exists_sinceStart ((isStarted_run_iff hr requests).1 hopen)
  rw [history_run hr hsince] at hh
  exact ⟨since, hsince, congrArg History.entries (Option.some.inj hh).symm⟩

end Registry

/-! ### The refinement -/

/-- Whether an answer reports a failure. -/
def Answer.IsError : Answer → Prop
  | .done (.error _) | .name (.error _) | .entries (.error _) => True
  | .report answer => ∃ e, answer.outcome = some (.error e)
  | _ => False

/-- A registry with transcoder `t` is what its log says, and does next what the log allows. -/
structure Registry.FollowsLog (t : Transcoder) (requests : List Request) (r : Registry) :
    Prop where
  transcoder_eq : r.transcoder = t
  /-- A session is open exactly if a `start` came after the last `stop`. -/
  isStarted_iff : r.isStarted = true ↔ InSession requests
  /-- An open session was opened by some `start`. -/
  exists_since : r.isStarted = true → ∃ since, SinceStart requests since
  /-- The history holds, in order, the first pair for each raw name attempted since then. -/
  history_eq : ∀ since, SinceStart requests since →
    r.history = some ⟨firstPerRaw (since.flatMap (Request.attempts t))⟩
  /-- So it is read within the session, and outside of one it cannot be read. -/
  entries_eq : ∀ since, SinceStart requests since →
    r.entries = .ok (firstPerRaw (since.flatMap (Request.attempts t)))
  entries_of_closed : r.isStarted = false → r.entries = .error .notInitialized
  /-- No raw name has two entries. -/
  nodup_raw : ∀ h, r.history = some h → (h.entries.map Entry.raw).Nodup
  /-- Within a session `start` changes nothing. -/
  start_eq : r.isStarted = true → (r.answer .start).value.2 = r
  /-- Only `start` opens a session. -/
  isStarted_answer : ∀ q, q ≠ .start → r.isStarted = false →
    (r.answer q).value.2.isStarted = false
  /-- A request that fails changes nothing. -/
  eq_of_isError : ∀ q, (r.answer q).value.1.IsError → (r.answer q).value.2 = r
  /-- A conversion fails with its transcoder, and nothing changes. -/
  convert_of_error : ∀ raw e, (t.toUtf8 raw).value = .error e →
    (r.convert raw).value = (.error (.conversion e), r)
  /-- Outside of a session a conversion fails although its transcoder does not. -/
  convert_of_closed : ∀ raw converted, (t.toUtf8 raw).value = .ok converted →
    r.isStarted = false → (r.convert raw).value = (.error .notInitialized, r)
  /-- Within a session it succeeds with its transcoder, whether or not the name is new. -/
  convert_of_open : ∀ raw converted, (t.toUtf8 raw).value = .ok converted →
    r.isStarted = true → (r.convert raw).value = (.ok converted, r.remember [⟨raw, converted⟩])
  /-- A name is shown as it is if it is no GBK name or cannot be converted; nothing changes. -/
  display_of_fallback : ∀ raw,
    (isGbkName raw = false ∨ ∃ e, (r.convert raw).value.1 = .error e) →
    (r.displayName raw).value = (raw, r)
  /-- A name is driven as it is if it is a GBK name or finds nothing; nothing changes. -/
  driver_of_fallback : ∀ chosen,
    (isGbkName chosen = true ∨ ∃ e, (r.lookup chosen).value = .error e) →
    (r.answer (.driver chosen)).value.2 = r ∧ (r.driverName chosen).value = chosen

namespace Registry

/-- A request that fails changes nothing. -/
theorem answer_snd_of_isError {r : Registry} {q : Request} (h : (r.answer q).value.1.IsError) :
    (r.answer q).value.2 = r := by
  cases q with
  | convert raw =>
    change (Answer.name (r.convert raw).value.1).IsError at h
    cases hconvert : (r.convert raw).value.1 with
    | error e => exact convert_snd_of_error hconvert
    | ok converted => rw [hconvert] at h; cases h
  -- Nothing but a missing session keeps a pair from being recorded.
  | record raw converted =>
    change (Answer.done (r.record raw converted).value.1).IsError at h
    rw [answer_snd]
    cases hr : r.isStarted with
    | false => exact remember_of_isStarted hr _
    | true => rw [value_record, hr] at h; cases h
  | report input raw =>
    change ∃ e, (r.report input raw).value.1.outcome = some (.error e) at h
    change (r.report input raw).value.2 = r
    rw [value_report] at h ⊢
    split
    · rename_i hgbk
      rw [if_pos hgbk] at h
      obtain ⟨e, he⟩ := h
      exact convert_snd_of_error (Option.some.inj he)
    · rfl
  | lookup | entries => rfl
  | start | stop | classify | display | driver | isEmpty | dump | annotate => cases h

/-- Within a session `start` changes nothing. -/
theorem answer_start_snd {r : Registry} (hr : r.isStarted = true) :
    (r.answer .start).value.2 = r := by
  rw [answer_snd]
  cases r with
  | mk transcoder dumps history =>
    cases history with
    | none => cases hr
    | some h => rfl

/-- The entries of an open session are those of its history. -/
theorem entries_of_history {r : Registry} {h : History} (hr : r.history = some h) :
    r.entries = .ok h.entries := by
  rw [entries, hr]

/-- Outside of a session there are none to be read. -/
theorem entries_of_isStarted {r : Registry} (hr : r.isStarted = false) :
    r.entries = .error .notInitialized := by
  have hnone : r.history = none := Option.isNone_iff_eq_none.1 (Option.isSome_eq_false_iff.1 hr)
  rw [entries, hnone]

/-- A name that is no GBK name or cannot be converted is shown as it is. -/
theorem displayName_of_fallback {r : Registry} {raw : Bytes}
    (h : isGbkName raw = false ∨ ∃ e, (r.convert raw).value.1 = .error e) :
    (r.displayName raw).value = (raw, r) := by
  rw [value_displayName]
  rcases h with hgbk | ⟨e, he⟩
  · rw [hgbk, if_neg Bool.false_ne_true]
  · split
    · rw [convert_snd_of_error he, he]
      rfl
    · rfl

/-- A name that is a GBK name or finds nothing is driven as it is. -/
theorem driverName_of_fallback {r : Registry} {chosen : Bytes}
    (h : isGbkName chosen = true ∨ ∃ e, (r.lookup chosen).value = .error e) :
    (r.driverName chosen).value = chosen := by
  rw [value_driverName]
  rcases h with hgbk | ⟨e, he⟩
  · rw [if_pos hgbk]
  · split
    · rfl
    · rw [he]
      rfl

/-- The raw names of a session are pairwise distinct. -/
theorem nodup_raw_run {r : Registry} (hr : r.history = none) {requests : List Request}
    {h : History} (hh : (r.run requests).history = some h) :
    (h.entries.map Entry.raw).Nodup := by
  obtain ⟨since, -, hentries⟩ := exists_since_entries hr hh
  rw [hentries]
  exact nodup_firstPerRaw _

end Registry

/-- **Refinement.** Every registry follows its log. -/
theorem run_followsLog (t : Transcoder) (dumps : Bool) (requests : List Request) :
    ((Registry.ofTranscoder t dumps).run requests).FollowsLog t requests := by
  have hnone : (Registry.ofTranscoder t dumps).history = none := rfl
  have htranscoder : ((Registry.ofTranscoder t dumps).run requests).transcoder = t :=
    Registry.transcoder_run _ requests
  have hiff := Registry.isStarted_run_iff hnone requests
  refine
    { transcoder_eq := htranscoder
      isStarted_iff := hiff
      exists_since := fun hr => exists_sinceStart (hiff.1 hr)
      history_eq := fun _ hsince => Registry.history_run hnone hsince
      entries_eq := fun _ hsince =>
        Registry.entries_of_history (Registry.history_run hnone hsince)
      entries_of_closed := Registry.entries_of_isStarted
      nodup_raw := fun _ hh => Registry.nodup_raw_run hnone hh
      start_eq := Registry.answer_start_snd
      isStarted_answer := ?_
      eq_of_isError := fun _ => Registry.answer_snd_of_isError
      convert_of_error := ?_
      convert_of_closed := ?_
      convert_of_open := ?_
      display_of_fallback := fun _ => Registry.displayName_of_fallback
      driver_of_fallback := fun _ h => ⟨rfl, Registry.driverName_of_fallback h⟩ }
  · -- A closed session stays closed: no request but `start` opens one.
    intro q hq hr
    rw [← Bool.not_eq_true, Registry.isStarted_answer, hr]
    simp [hq]
  · intro raw e he
    rw [Registry.value_convert, htranscoder, he]
  · intro raw converted hc hr
    rw [← htranscoder] at hc
    rw [Registry.convert_of_ok hc, hr, if_neg Bool.false_ne_true,
      Registry.remember_of_isStarted hr]
  · intro raw converted hc hr
    rw [← htranscoder] at hc
    rw [Registry.convert_of_ok hc, if_pos hr]

end WifiNames
