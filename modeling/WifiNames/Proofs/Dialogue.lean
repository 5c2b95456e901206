import Mathlib.Data.List.DropRight
import WifiNames.Dialogue
import WifiNames.Proofs.Session

namespace WifiNames

/-!
# Dialogues — the session stays open

A dialogue is held within a session.  To the registry a command is a few requests, and only `reset`
ends the session: to open the next one at once.

What a dialogue has to do is said of the words of its lines, without the commands that these are read
as.  So the lines that record, convert, reset and quit are those that a user takes for such.

* `Dialogue.heard`, `Dialogue.sinceReset`, `Dialogue.attempts` — the lines that are heard, those of them
  that count for the history, and the pairs that each attempts to remember.
* `Dialogue.typed?` — the bytes that a typed name stands for.
* `Command.requests` — what a command asks of the registry.
* `Command.perform_snd` — **the step**: a command leaves the registry as its requests do.
* `Dialogue.run_snd` — **the run**: so does a dialogue with the commands of the lines that are heard.
* `Dialogue.attempts_eq` — these requests attempt what the words of the lines ask for.
* `Dialogue.KeepsSession`, `keepsSession` — what holds after any lines, and of the line after them.
-/

variable {manner : Manner} {r : Registry} {t : Transcoder}

/-! ### What words ask for -/

namespace Dialogue

/-- Whether the words of a line ask to quit; whatever comes after the first of them. -/
def AsksToQuit (ws : List Text) : Prop :=
  ws.head? = some "quit".toList ∨ ws.head? = some "exit".toList

instance (ws : List Text) : Decidable (AsksToQuit ws) :=
  inferInstanceAs (Decidable (_ ∨ _))

/-- The words of the lines that are heard, line by line: of all up to the first line that is not text
    or asks to quit. -/
def heard : List Bytes → List (List Text)
  | [] => []
  | line :: rest =>
    match Utf8.decode? line with
    | none => []
    | some text => if AsksToQuit (Text.words text) then [] else Text.words text :: heard rest

/-- The lines after the last one that asks to reset, or all of them if there is none. -/
def sinceReset (lines : List (List Text)) : List (List Text) :=
  lines.rtakeWhile (· ≠ ["reset".toList])

/-- The bytes that a typed name stands for, if it can be read: by its digits if names are typed in hex,
    else by its characters and escapes. -/
def typed? (manner : Manner) (name : Text) : Option Bytes :=
  if manner.hex then (Hex.read name).toOption else some (Escape.decode name)

/-- The pairs that a line attempts to remember: the pair that it records if both names can be read, and
    the conversion that it asks for if the name can be read, is a GBK name and can be converted. -/
def attempts (manner : Manner) (t : Transcoder) : List Text → List Entry
  | [word, name] =>
    match typed? manner name with
    | some raw => if word = "convert".toList then t.gbkConversions raw else []
    | none => []
  | [word, name, other] =>
    match typed? manner name, typed? manner other with
    | some raw, some converted => if word = "record".toList then [⟨raw, converted⟩] else []
    | _, _ => []
  | _ => []

example : sinceReset [["help".toList], ["reset".toList], ["reset".toList, []], []] =
    [["reset".toList, []], []] := by
  decide

end Dialogue

namespace Command

/-- What a command asks of the registry; nothing if a name cannot be read. -/
def requests (manner : Manner) : Command → List Request
  | .classify name =>
    match manner.read name with
    | .ok raw => [.classify raw]
    | .error _ => []
  | .convert name =>
    match manner.read name with
    | .ok raw => [.report name raw]
    | .error _ => []
  | .lookup name =>
    match manner.read name with
    | .ok query => [.lookup query]
    | .error _ => []
  | .record raw converted =>
    match manner.read raw, manner.read converted with
    | .ok raw, .ok converted => [.record raw converted]
    | _, _ => []
  | .history => [.dump, .entries]
  | .reset => [.stop, .start]
  | .blank | .quit | .help => []

/-! ### Words -/

/-- The words of a command, if there is one way only to ask for it. -/
def spelling? : Command → Option (List Text)
  | .blank => some []
  | .classify name => some ["classify".toList, name]
  | .convert name => some ["convert".toList, name]
  | .lookup name => some ["lookup".toList, name]
  | .record raw converted => some ["record".toList, raw, converted]
  | .history => some ["history".toList]
  | .reset => some ["reset".toList]
  | .quit | .help => none

/-- A command is asked for by its words and by no others. -/
theorem ofWords_eq_iff {command : Command} {spelt ws : List Text}
    (h : command.spelling? = some spelt) : ofWords ws = command ↔ ws = spelt := by
  constructor
  · rintro rfl
    cases ws with
    | nil => exact Option.some.inj h
    | cons word args =>
      -- The table of commands is gone through row by row; `quit`, `exit` and `help` have no spelling.
      simp only [ofWords] at h
      split at h
      case h_1 | h_2 | h_9 => cases h
      all_goals
        rename_i hword
        cases h
        rw [← hword, String.toList_ofList]
  · rintro rfl
    cases command <;> cases h <;> rfl

/-- To quit is asked for by the first word alone. -/
theorem ofWords_eq_quit_iff {ws : List Text} : ofWords ws = .quit ↔ Dialogue.AsksToQuit ws := by
  cases ws with
  | nil => simp [ofWords, Dialogue.AsksToQuit]
  | cons word args =>
    simp only [Dialogue.AsksToQuit, List.head?_cons, Option.some_inj]
    constructor
    · intro h
      simp only [ofWords] at h
      split at h
      case h_1 hword => exact Or.inl (by rw [← hword, String.toList_ofList])
      case h_2 hword => exact Or.inr (by rw [← hword, String.toList_ofList])
      all_goals cases h
    · rintro (rfl | rfl) <;> rfl

/-! ### The step -/

/-- **The step.** A command leaves the registry as its requests do. -/
theorem perform_snd (manner : Manner) (r : Registry) (command : Command) :
    (command.perform manner r).value.2 = r.run (command.requests manner) := by
  cases command with
  | blank | quit | help | history | reset => rfl
  | classify name | convert name | lookup name =>
    rw [perform, requests]
    cases manner.read name <;> rfl
  | record raw converted =>
    rw [perform, requests]
    cases manner.read raw <;> cases manner.read converted <;> rfl

theorem stop_mem_requests_iff {command : Command} :
    .stop ∈ command.requests manner ↔ command = .reset := by
  cases command with
  | blank | quit | help | history | reset => simp [requests]
  | classify name | convert name | lookup name =>
    rw [requests]
    cases manner.read name <;> simp
  | record raw converted =>
    rw [requests]
    cases manner.read raw <;> cases manner.read converted <;> simp

end Command

/-! ### Failures -/

/-- A name that cannot be read is not for want of a session. -/
theorem Manner.read_ne_notInitialized (manner : Manner) (name : Text) :
    manner.read name ≠ .error .notInitialized := by
  rw [read]
  split
  · rw [Hex.read]
    split
    · simp
    · split <;> simp
  · simp

namespace Registry

/-- Within a session no conversion fails for want of one. -/
theorem convert_ne_notInitialized (hr : r.isStarted = true) (raw : Bytes) :
    (r.convert raw).value.1 ≠ .error .notInitialized := by
  rw [value_convert, hr]
  cases (r.transcoder.toUtf8 raw).value <;> simp

/-- Nor does a report. -/
theorem report_ne_notInitialized (hr : r.isStarted = true) (input : Text) (raw : Bytes) :
    (r.report input raw).value.1.outcome ≠ some (.error .notInitialized) := by
  rw [value_report]
  split
  · intro h
    exact convert_ne_notInitialized hr raw (Option.some.inj h)
  · simp

/-- Nor does a look-up. -/
theorem lookupReport_ne_notInitialized (hr : r.isStarted = true) (input : Text) (query : Bytes) :
    (r.lookupReport input query).value.outcome ≠ .error .notInitialized := by
  show (r.lookup query).value ≠ _
  obtain ⟨h, hh⟩ := Option.isSome_iff_exists.1 hr
  rw [value_lookup, hh]
  show (h.lookup? query).elim _ _ ≠ _
  cases h.lookup? query <;> simp

end Registry

/-- Within a session no command fails for want of one. -/
theorem Command.perform_ne_notInitialized (hr : r.isStarted = true) (command : Command) :
    (command.perform manner r).value.1 ≠ .error .notInitialized := by
  cases command with
  | blank | quit | help | reset => simp [perform]
  | history =>
    obtain ⟨h, hh⟩ := Option.isSome_iff_exists.1 hr
    simp [perform, Registry.entries, hh, Except.map]
  | classify name | convert name | lookup name =>
    have hname := manner.read_ne_notInitialized name
    rw [perform]
    cases hread : manner.read name with
    | error e =>
      rw [hread] at hname
      simpa using hname
    | ok raw => simp
  | record raw converted =>
    have hraw := manner.read_ne_notInitialized raw
    have hconverted := manner.read_ne_notInitialized converted
    rw [perform]
    cases hread : manner.read raw with
    | error e =>
      rw [hread] at hraw
      simpa using hraw
    | ok raw =>
      cases hread' : manner.read converted with
      | error e =>
        rw [hread'] at hconverted
        simpa using hconverted
      | ok converted => simp [Registry.value_record, hr, Except.map]

namespace Dialogue

/-! ### The run -/

/-- What the words of a line ask of the registry, by the command that they are read as. -/
def requests (manner : Manner) (ws : List Text) : List Request :=
  (Command.ofWords ws).requests manner

/-- Whether a dialogue goes on after lines: all of them are text, and none asks to quit. -/
def GoesOn (lines : List Bytes) : Prop :=
  ∀ line ∈ lines, ∃ text, Utf8.decode? line = some text ∧ ¬ AsksToQuit (Text.words text)

theorem ofLine_eq_quit_iff {line : Text} :
    Command.ofLine line = .quit ↔ AsksToQuit (Text.words line) :=
  Command.ofWords_eq_quit_iff

/-- A turn leaves the registry as its command does; one that ends the dialogue leaves it as it is. -/
theorem turn_snd (manner : Manner) (r : Registry) (command : Command) :
    (turn manner r command).value.2 = r.run (command.requests manner) := by
  rw [turn]
  split
  · rename_i hquit
    rw [hquit]
    rfl
  · exact command.perform_snd manner r

/-- **The run.** A dialogue leaves the registry as the requests of the lines that are heard. -/
theorem run_snd (manner : Manner) (r : Registry) (lines : List Bytes) :
    (run manner r lines).value.2.2 = r.run ((heard lines).flatMap (requests manner)) := by
  induction lines generalizing r with
  | nil => rfl
  | cons line rest ih =>
    rw [run, heard]
    cases Utf8.decode? line with
    | none => rfl
    | some text =>
      have hturn := turn_snd manner r (.ofLine text)
      -- A line that asks to quit ends both the dialogue and what is heard.
      by_cases hquit : AsksToQuit (Text.words text)
      · simp [turn, ofLine_eq_quit_iff, hquit]
      · simp only [turn, ofLine_eq_quit_iff, hquit, if_false, Noted.value_bind, Noted.value_pure, ih,
          List.flatMap_cons, Registry.run_append, Command.perform_snd]
        rfl

/-- Lines after which a dialogue goes on are answered before the next line, and not otherwise. -/
theorem run_append {lines : List Bytes} (hlines : GoesOn lines) (r : Registry)
    (rest : List Bytes) :
    (run manner r (lines ++ rest)).value.2 =
      (run manner (run manner r lines).value.2.2 rest).value.2 := by
  induction lines generalizing r with
  | nil => rfl
  | cons line more ih =>
    obtain ⟨⟨text, htext, hquit⟩, hmore⟩ := List.forall_mem_cons.1 hlines
    simp only [List.cons_append, run, htext, turn, ofLine_eq_quit_iff, hquit, if_false,
      Noted.value_bind, Noted.value_pure, ih hmore]

/-- A line that asks to quit has the effect of none, and neither has any line after it. -/
theorem run_append_quit {line : Bytes} {text : Text} (htext : Utf8.decode? line = some text)
    (hquit : AsksToQuit (Text.words text)) (r : Registry) (lines rest : List Bytes) :
    run manner r (lines ++ line :: rest) = run manner r lines := by
  induction lines generalizing r with
  | nil =>
    simp only [List.nil_append, run, htext, turn, ofLine_eq_quit_iff, hquit, if_true]
    rfl
  | cons first more ih => simp only [List.cons_append, run, ih]

/-! ### The lines that count -/

/-- Only the line that asks to reset ends the session. -/
theorem stop_mem_requests_iff {ws : List Text} :
    .stop ∈ requests manner ws ↔ ws = ["reset".toList] :=
  Command.stop_mem_requests_iff.trans (Command.ofWords_eq_iff rfl)

theorem reset_notMem_sinceReset (lines : List (List Text)) : ["reset".toList] ∉ sinceReset lines := by
  intro h
  simpa using List.mem_rtakeWhile_imp h

/-- Lines are those since the last reset, or those with that reset and more in front of them. -/
theorem sinceReset_eq_or (lines : List (List Text)) :
    sinceReset lines = lines ∨ ∃ before, lines = before ++ ["reset".toList] :: sinceReset lines := by
  -- The last line decides: a reset forgets all lines before it, any other line is kept.
  induction lines using List.reverseRecOn with
  | nil => exact Or.inl rfl
  | append_singleton lines ws ih =>
    by_cases hreset : ws = ["reset".toList]
    · right
      refine ⟨lines, ?_⟩
      rw [sinceReset, List.rtakeWhile_concat_neg, hreset]
      simpa using hreset
    · have hstep : sinceReset (lines ++ [ws]) = sinceReset lines ++ [ws] :=
        List.rtakeWhile_concat_pos _ _ _ (by simpa using hreset)
      rw [hstep]
      rcases ih with h | ⟨before, h⟩
      · left
        rw [h]
      · right
        refine ⟨before, ?_⟩
        conv_lhs => rw [h]
        rw [List.append_assoc, List.cons_append]

/-- In the log of a dialogue, the session at the end was opened at the start or by the last line that
    asks to reset. -/
theorem sinceStart_requests (manner : Manner) (lines : List (List Text)) :
    SinceStart (.start :: lines.flatMap (requests manner))
      ((sinceReset lines).flatMap (requests manner)) := by
  -- None of these lines asks to reset, so none of their requests ends the session.
  have hstop : Request.stop ∉ (sinceReset lines).flatMap (requests manner) := by
    intro hmem
    obtain ⟨ws, hws, hmem⟩ := List.mem_flatMap.1 hmem
    rw [stop_mem_requests_iff] at hmem
    exact reset_notMem_sinceReset lines (hmem ▸ hws)
  rcases sinceReset_eq_or lines with h | ⟨before, h⟩
  · exact ⟨[], by rw [h]; rfl, hstop, not_inSession_nil⟩
  · -- A reset is a `stop`, after which no session is open, and the `start` of the last one.
    refine ⟨.start :: before.flatMap (requests manner) ++ [.stop], ?_, hstop, ?_⟩
    · have hreset : requests manner ["reset".toList] = [.stop, .start] := rfl
      conv_lhs => rw [h]
      rw [List.flatMap_append, List.flatMap_cons, hreset]
      simp
    · rw [inSession_concat]
      simp

/-- A name is read as it was typed. -/
theorem typed?_eq (manner : Manner) (name : Text) :
    typed? manner name = (manner.read name).toOption := by
  rw [typed?, Manner.read]
  split <;> rfl

theorem typed?_of_read {name : Text} {raw : Bytes} (h : manner.read name = .ok raw) :
    typed? manner name = some raw := by
  rw [typed?_eq, h]
  rfl

/-- A line that is read neither as a conversion nor as a record attempts nothing. -/
theorem attempts_eq_nil {ws : List Text} (hconvert : ∀ x, Command.ofWords ws ≠ .convert x)
    (hrecord : ∀ x y, Command.ofWords ws ≠ .record x y) : attempts manner t ws = [] := by
  -- The words decide by their number; the first word is then no `convert` or no `record`.
  unfold attempts
  split
  · rename_i word name
    have hword : word ≠ "convert".toList := by
      rintro rfl
      exact hconvert name rfl
    cases typed? manner name with
    | none => rfl
    | some raw => exact if_neg hword
  · rename_i word name other
    have hword : word ≠ "record".toList := by
      rintro rfl
      exact hrecord name other rfl
    cases typed? manner name with
    | none => rfl
    | some raw =>
      cases typed? manner other with
      | none => rfl
      | some converted => exact if_neg hword
  · rfl

/-- **What a line attempts.** The requests of a line attempt to remember what its words ask for. -/
theorem attempts_eq (manner : Manner) (t : Transcoder) (ws : List Text) :
    (requests manner ws).flatMap (Request.attempts t) = attempts manner t ws := by
  cases hcommand : Command.ofWords ws with
  | convert name =>
    -- The command gives its words away, so that the two sides ask for the same.
    obtain rfl := (Command.ofWords_eq_iff rfl).1 hcommand
    simp only [requests, hcommand, Command.requests, attempts, typed?_eq, if_true]
    cases manner.read name with
    | error e => rfl
    | ok raw => exact List.append_nil _
  | record name other =>
    obtain rfl := (Command.ofWords_eq_iff rfl).1 hcommand
    simp only [requests, hcommand, Command.requests, attempts, typed?_eq, if_true]
    cases manner.read name with
    | error e => rfl
    | ok raw => cases manner.read other <;> rfl
  | blank | quit | help | history | reset =>
    rw [attempts_eq_nil (by simp [hcommand]) (by simp [hcommand]), requests, hcommand]
    rfl
  | classify name | lookup name =>
    rw [attempts_eq_nil (by simp [hcommand]) (by simp [hcommand]), requests, hcommand,
      Command.requests]
    cases manner.read name <;> rfl

/-! ### The session -/

/-- A line that asks for nothing to be remembered or forgotten. -/
structure IsIdle (manner : Manner) (t : Transcoder) (line : Text) : Prop where
  reset : Text.words line ≠ ["reset".toList]
  /-- If it asks to record a pair, one of the two names cannot be read. -/
  record : ∀ x y raw converted, Text.words line = ["record".toList, x, y] →
    ¬ (typed? manner x = some raw ∧ typed? manner y = some converted)
  /-- If it asks to convert a name, the name cannot be read, is no GBK name or cannot be
      converted. -/
  convert : ∀ x raw, Text.words line = ["convert".toList, x] → typed? manner x = some raw →
    t.gbkConversions raw = []

/-- What comes of an idle line: nothing. -/
theorem turn_snd_of_isIdle {line : Text} (hline : IsIdle manner r.transcoder line) :
    (turn manner r (.ofLine line)).value.2 = r := by
  rw [turn_snd]
  cases hcommand : Command.ofLine line with
  | blank | quit | help | history => rfl
  | reset => exact absurd ((Command.ofWords_eq_iff rfl).1 hcommand) hline.reset
  | classify name | lookup name =>
    rw [Command.requests]
    cases manner.read name <;> rfl
  | convert name =>
    rw [Command.requests]
    cases hread : manner.read name with
    | error e => rfl
    | ok raw =>
      have hwords := (Command.ofWords_eq_iff rfl).1 hcommand
      -- There is nothing to remember: the conversion was not asked for or fails.
      show (r.report name raw).value.2 = r
      rw [Registry.report_snd, hline.convert name raw hwords (typed?_of_read hread), Registry.remember_nil]
  | record x y =>
    rw [Command.requests]
    cases hraw : manner.read x with
    | error e => rfl
    | ok raw =>
      cases hconverted : manner.read y with
      | error e => rfl
      | ok converted =>
        -- Both names were read, which is excluded for an idle line.
        have hwords := (Command.ofWords_eq_iff rfl).1 hcommand
        exact absurd ⟨typed?_of_read hraw, typed?_of_read hconverted⟩
          (hline.record x y raw converted hwords)

/-- A dialogue that was opened with `start` keeps its session: `r` is its registry after `lines`. -/
structure KeepsSession (manner : Manner) (t : Transcoder) (start : Registry) (lines : List Bytes)
    (r : Registry) : Prop where
  /-- It is the registry that the next line meets. -/
  run_append : GoesOn lines → ∀ rest,
    (run manner start (lines ++ rest)).value.2 = (run manner r rest).value.2
  isStarted : r.isStarted = true
  /-- No command fails for want of a session, and no report tells of such a failure. -/
  perform_ne : ∀ command : Command, (command.perform manner r).value.1 ≠ .error .notInitialized
  report_ne : ∀ input raw, (r.report input raw).value.1.outcome ≠ some (.error .notInitialized)
  lookup_ne : ∀ input query, (r.lookupReport input query).value.outcome ≠ .error .notInitialized
  /-- The history holds, in order, the first pair for each raw name of those that the lines since the
      last reset record or convert. -/
  history_eq : r.history = some ⟨firstPerRaw ((sinceReset (heard lines)).flatMap (attempts manner t))⟩
  /-- Any other line leaves the registry as it is. -/
  turn_of_isIdle : ∀ line, IsIdle manner t line → (turn manner r (.ofLine line)).value.2 = r
  /-- Neither a line that asks to quit nor any line after it has an effect. -/
  run_append_quit : ∀ line text rest, Utf8.decode? line = some text →
    AsksToQuit (Text.words text) → run manner start (lines ++ line :: rest) = run manner start lines

/-- **Dialogues keep their session**, whatever is typed and however names are to be typed. -/
theorem keepsSession (manner : Manner) (t : Transcoder) (dumps : Bool) (lines : List Bytes) :
    KeepsSession manner t (Registry.ofTranscoder t dumps).start.value lines
      (run manner (Registry.ofTranscoder t dumps).start.value lines).value.2.2 := by
  -- To the registry the dialogue is a session from its start.
  have hlog : (run manner (Registry.ofTranscoder t dumps).start.value lines).value.2.2 =
      (Registry.ofTranscoder t dumps).run (.start :: (heard lines).flatMap (requests manner)) :=
    run_snd manner _ lines
  have htranscoder := Registry.transcoder_run (Registry.ofTranscoder t dumps)
    (.start :: (heard lines).flatMap (requests manner))
  have hclosed : (Registry.ofTranscoder t dumps).history = none := rfl
  have hhistory := Registry.history_run hclosed (sinceStart_requests manner (heard lines))
  rw [← hlog, List.flatMap_assoc] at hhistory
  rw [← hlog] at htranscoder
  have hopen := Registry.isStarted_of_history hhistory
  exact {
    run_append := fun hlines rest => run_append hlines _ rest
    isStarted := hopen
    perform_ne := Command.perform_ne_notInitialized hopen
    report_ne := Registry.report_ne_notInitialized hopen
    lookup_ne := Registry.lookupReport_ne_notInitialized hopen
    history_eq := by
      rw [hhistory, funext (attempts_eq manner _)]
      rfl
    turn_of_isIdle := fun line hline => turn_snd_of_isIdle (htranscoder ▸ hline)
    run_append_quit := fun line text rest htext hquit => run_append_quit htext hquit _ _ _ }

/-- A conversion that a reset forgets, a pair that is recorded, a conversion that comes too late for
    that name and one that does not; then a line that asks to quit, and one that is not heard. -/
theorem keepsSession_of_reset :
    ∃ r, r = (run ⟨false, false⟩ (Registry.ofTranscoder Converter.default.transcoder false).start.value
        (["convert \\xd6\\xd0", "reset", " record \\xd6\\xd0 x", "convert \\xd6\\xd0",
          "convert \\xb9\\xfa", "quit now", "reset"].map fun line => Utf8.encode line.toList)).value.2.2 ∧
      KeepsSession ⟨false, false⟩ Converter.default.transcoder
        (Registry.ofTranscoder Converter.default.transcoder false).start.value
        (["convert \\xd6\\xd0", "reset", " record \\xd6\\xd0 x", "convert \\xd6\\xd0",
          "convert \\xb9\\xfa", "quit now", "reset"].map fun line => Utf8.encode line.toList) r ∧
      r.history = some ⟨[⟨[0xD6, 0xD0], [0x78]⟩, ⟨[0xB9, 0xFA], Utf8.encode ['国']⟩]⟩ := by
  have hkeeps := keepsSession ⟨false, false⟩ Converter.default.transcoder false
    (["convert \\xd6\\xd0", "reset", " record \\xd6\\xd0 x", "convert \\xd6\\xd0",
      "convert \\xb9\\xfa", "quit now", "reset"].map fun line => Utf8.encode line.toList)
  have hlines : sinceReset (heard (["convert \\xd6\\xd0", "reset", " record \\xd6\\xd0 x",
      "convert \\xd6\\xd0", "convert \\xb9\\xfa", "quit now", "reset"].map
        fun line => Utf8.encode line.toList)) =
      [["record".toList, "\\xd6\\xd0".toList, "x".toList], ["convert".toList, "\\xd6\\xd0".toList],
        ["convert".toList, "\\xb9\\xfa".toList]] := by
    decide +kernel
  have hrecord : attempts ⟨false, false⟩ Converter.default.transcoder
      ["record".toList, "\\xd6\\xd0".toList, "x".toList] = [⟨[0xD6, 0xD0], [0x78]⟩] := by
    decide +kernel
  have hlate : attempts ⟨false, false⟩ Converter.default.transcoder
      ["convert".toList, "\\xd6\\xd0".toList] = [⟨[0xD6, 0xD0], Utf8.encode ['中']⟩] := by
    decide +kernel
  have hother : attempts ⟨false, false⟩ Converter.default.transcoder
      ["convert".toList, "\\xb9\\xfa".toList] = [⟨[0xB9, 0xFA], Utf8.encode ['国']⟩] := by
    decide +kernel
  have hattempts : firstPerRaw ([["record".toList, "\\xd6\\xd0".toList, "x".toList],
      ["convert".toList, "\\xd6\\xd0".toList], ["convert".toList, "\\xb9\\xfa".toList]].flatMap
        (attempts ⟨false, false⟩ Converter.default.transcoder)) =
      [⟨[0xD6, 0xD0], [0x78]⟩, ⟨[0xB9, 0xFA], Utf8.encode ['国']⟩] := by
    rw [List.flatMap_cons, List.flatMap_cons, List.flatMap_cons, hrecord, hlate, hother]
    decide
  have hhistory := hkeeps.history_eq
  rw [hlines, hattempts] at hhistory
  exact ⟨_, rfl, hkeeps, hhistory⟩

end Dialogue

end WifiNames
