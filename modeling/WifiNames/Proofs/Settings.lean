import Mathlib.Control.Monad.Basic
import WifiNames.Files.Tree
import WifiNames.Program

namespace WifiNames

/-!
# Settings — what the environment leaves of the check

Settings are checked on every way in from a file, after the environment has put its values in the
place of theirs.  A run that cannot load any falls back to the default settings, which hold the
values of the same environment and are not checked.  So the files never decide whether the settings
of a run pass the check: the environment alone does.

* `Environment.IsUsable` — an environment without a blank label and without a capacity of zero.
* `Settings.validate_override`, `Settings.isUsable_of_validate_override` — what overriding does to
  the check.
* `Settings.IsLoaded` — checked settings in which the environment has the last word;
  `Settings.isLoaded_of_load` and its likes say that every reader answers with such.
* `Program.validate_settings_iff` — exactly when the settings of a run pass the check.
* `Program.validate_settings_of_zero` — a run with settings that were refused just before.
-/

/-- Whether every value that the environment gives is one that the converter can work with. -/
def Environment.IsUsable (env : Environment) : Prop :=
  (∀ label ∈ env.charset, Text.trim label.toList ≠ []) ∧ env.capacity? ≠ some 0

instance (env : Environment) : Decidable env.IsUsable :=
  inferInstanceAs (Decidable (_ ∧ _))

namespace Settings

/-! ### The check -/

/-- Settings pass the check if their label is not blank and their capacity is not zero. -/
theorem validate_eq_ok_iff {s : Settings} :
    s.validate = .ok () ↔ Text.trim s.charset.toList ≠ [] ∧ s.capacity ≠ 0 := by
  unfold validate
  by_cases hcharset : (Text.trim s.charset.toList).isEmpty = true
  · rw [if_pos hcharset]
    have hblank : Text.trim s.charset.toList = [] := List.isEmpty_iff.1 hcharset
    simp [hblank]
  · rw [if_neg hcharset]
    rw [List.isEmpty_iff] at hcharset
    by_cases hcapacity : s.capacity = 0
    · simp [hcapacity]
    · simp [hcharset, hcapacity]

theorem validate_base : base.validate = .ok () := by
  rw [validate_eq_ok_iff]
  decide

/-- An environment whose values pass the check in the place of any others is usable. -/
theorem isUsable_of_validate_override {env : Environment} {s : Settings}
    (h : (override env s).validate = .ok ()) : env.IsUsable := by
  obtain ⟨hcharset, hcapacity⟩ := validate_eq_ok_iff.1 h
  unfold override at hcharset hcapacity
  constructor
  · -- A label of the environment is the label that was checked.
    intro label hlabel
    rw [Option.mem_def] at hlabel
    simpa [hlabel] using hcharset
  · intro hzero
    simp [hzero] at hcapacity

/-- Settings that pass the check still do so with the values of a usable environment. -/
theorem validate_override {env : Environment} {s : Settings} (hs : s.validate = .ok ())
    (henv : env.IsUsable) : (override env s).validate = .ok () := by
  obtain ⟨hcharset, hcapacity⟩ := validate_eq_ok_iff.1 hs
  rw [validate_eq_ok_iff]
  unfold override
  constructor
  · cases hlabel : env.charset with
    | none => exact hcharset
    | some label => exact henv.1 label hlabel
  · cases hnumber : env.capacity? with
    | none => exact hcapacity
    | some number =>
      intro hzero
      apply henv.2
      rw [hnumber, show number = 0 from hzero]

/-- The default settings pass the check exactly if the environment is usable. -/
theorem validate_default_iff {env : Environment} :
    (default env).validate = .ok () ↔ env.IsUsable := by
  constructor
  · exact isUsable_of_validate_override
  · exact validate_override validate_base

/-! ### Readers -/

/-- Settings that have passed the check, with the values of the environment in place of others. -/
structure IsLoaded (env : Environment) (s : Settings) : Prop where
  validate_eq : s.validate = .ok ()
  exists_eq_override : ∃ given, s = override env given

/-- Nothing is loaded unless the environment is usable. -/
theorem IsLoaded.isUsable {env : Environment} {s : Settings} (h : IsLoaded env s) :
    env.IsUsable := by
  obtain ⟨hvalid, given, rfl⟩ := h
  exact isUsable_of_validate_override hvalid

/-- What is read from the text of a file is checked after the environment had its say. -/
theorem exists_of_ofFile {env : Environment} {path : String} {t : Text} {s : Settings}
    (h : ofFile env path t = .ok s) :
    ∃ given : Settings, s.validate = .ok () ∧
      s = override env { given with source := some path } := by
  unfold ofFile at h
  cases hparse : parse (default env) t with
  | error e => rw [hparse] at h; cases h
  | ok given =>
    rw [hparse] at h
    change ((override env { given with source := some path }).validate >>= fun _ =>
      pure (override env { given with source := some path })) = .ok s at h
    cases hvalid : (override env { given with source := some path }).validate with
    | error e => rw [hvalid] at h; cases h
    | ok _ =>
      rw [hvalid] at h
      cases h
      exact ⟨given, hvalid, rfl⟩

theorem isLoaded_of_ofFile {env : Environment} {path : String} {t : Text} {s : Settings}
    (h : ofFile env path t = .ok s) : IsLoaded env s := by
  obtain ⟨given, hvalid, hs⟩ := exists_of_ofFile h
  exact ⟨hvalid, _, hs⟩

variable {σ : Type}

/-- A computation on files goes on in the state in which its first part leaves them. -/
theorem run_bind_files {α β : Type} (x : StateM σ α) (f : α → StateM σ β) (state : σ) :
    (x >>= f).run state = (f (x.run state).1).run (x.run state).2 := rfl

variable {files : Files (StateM σ)} {env : Environment} {state : σ} {s : Settings}

theorem isLoaded_of_loadFrom {path : String}
    (h : ((loadFrom files env path).run state).1 = .ok s) : IsLoaded env s := by
  unfold loadFrom at h
  rw [run_bind_files] at h
  cases hread : ((files.read path).run state).1 with
  | error fault => rw [hread] at h; cases h
  | ok t =>
    rw [hread] at h
    exact isLoaded_of_ofFile h

/-- The default settings are checked before they are written. -/
theorem isLoaded_of_create {path : String}
    (h : ((create files env path).run state).1 = .ok s) : IsLoaded env s := by
  unfold create at h
  cases hvalid : (default env).validate with
  | error e => simp only [hvalid] at h; cases h
  | ok _ =>
    simp only [hvalid] at h
    rw [run_bind_files] at h
    -- They are answered only once they are written; the default ones are an override already.
    cases hsave : ((save files (default env) path).run state).1 with
    | error e => rw [hsave] at h; cases h
    | ok _ =>
      rw [hsave] at h
      cases h
      exact ⟨hvalid, base, rfl⟩

theorem isLoaded_of_loadIn {dir : String}
    (h : ((loadIn files env dir).run state).1 = .ok s) : IsLoaded env s := by
  unfold loadIn at h
  rw [run_bind_files] at h
  cases hensure : ((files.ensureDirectory dir).run state).1 with
  | error e => rw [hensure] at h; cases h
  | ok _ =>
    simp only [hensure] at h
    rw [run_bind_files] at h
    split at h
    · exact isLoaded_of_loadFrom h
    · exact isLoaded_of_create h

theorem isLoaded_of_load (h : ((load files env).run state).1 = .ok s) : IsLoaded env s := by
  unfold load at h
  cases hdir : env.settingsDirectory with
  | error e => rw [hdir] at h; cases h
  | ok dir =>
    rw [hdir] at h
    exact isLoaded_of_loadIn h

end Settings

/-! ### Runs -/

namespace Program

variable {m : Type → Type} [Monad m] {σ : Type}

/-- What is loaded for a run: the settings of the file that the options name, or else those of the
    settings file. -/
def loaded (files : Files m) (env : Environment) (o : Options) : m (Except Error Settings) :=
  match o.file with
  | some path => Settings.loadFrom files env (env.expandHome path)
  | none => Settings.load files env

/-- The settings of a run are those that are loaded, or else the default ones. -/
theorem settings_run_fst (files : Files (StateM σ)) (env : Environment) (o : Options) (state : σ) :
    ((settings files env o).run state).1 =
      match ((loaded files env o).run state).1 with
      | .ok s => (s, [])
      | .error e => (.default env, warningText e) := by
  unfold settings loaded
  cases o.file with
  | none =>
    show ((Settings.load files env >>= _).run state).1 = _
    rw [Settings.run_bind_files]
    cases ((Settings.load files env).run state).1 <;> rfl
  | some path =>
    show ((Settings.loadFrom files env (env.expandHome path) >>= _).run state).1 = _
    rw [Settings.run_bind_files]
    cases ((Settings.loadFrom files env (env.expandHome path)).run state).1 <;> rfl

/-- Whatever is loaded has passed the check. -/
theorem isLoaded_of_loaded {files : Files (StateM σ)} {env : Environment} {o : Options} {state : σ}
    {s : Settings} (h : ((loaded files env o).run state).1 = .ok s) : Settings.IsLoaded env s := by
  unfold loaded at h
  split at h
  · exact Settings.isLoaded_of_loadFrom h
  · exact Settings.isLoaded_of_load h

/-- **Which settings pass the check.**  Whatever the files hold and whichever file the options name,
    the settings that a run works with pass the check exactly if the environment is usable.  They
    are those that were loaded, or the default ones with a warning; and in an environment that is not
    usable nothing is ever loaded, so the default settings hold, which do not pass the check. -/
theorem validate_settings_iff {σ : Type} (files : Files (StateM σ)) (env : Environment)
    (o : Options) (state : σ) :
    let loading := ((loaded files env o).run state).1
    let outcome := ((settings files env o).run state).1
    (outcome.1.validate = .ok () ↔ env.IsUsable) ∧
    (∀ s, loading = .ok s → outcome = (s, [])) ∧
    (∀ e, loading = .error e → outcome = (.default env, warningText e)) ∧
    (¬ env.IsUsable → ∃ e, loading = .error e) ∧
    ∀ args input, Options.read args = .ok o →
      ((run files env args input).run state).1 = runWith o env outcome.1 outcome.2 input := by
  intro loading outcome
  have houtcome : outcome = match loading with
      | .ok s => (s, [])
      | .error e => (.default env, warningText e) :=
    settings_run_fst files env o state
  have hloaded : ∀ s, loading = .ok s → Settings.IsLoaded env s := by
    intro s hs
    exact isLoaded_of_loaded hs
  refine ⟨?_, ?_, ?_, ?_, ?_⟩
  · -- Loaded settings passed the check; the default ones do so exactly if the environment is usable.
    cases hloading : loading with
    | error e =>
      rw [houtcome, hloading]
      exact Settings.validate_default_iff
    | ok s =>
      rw [houtcome, hloading]
      have hs := hloaded s hloading
      exact iff_of_true hs.validate_eq hs.isUsable
  · intro s hs
    rw [houtcome, hs]
  · intro e he
    rw [houtcome, he]
  · intro henv
    cases hloading : loading with
    | error e => exact ⟨e, rfl⟩
    -- What is loaded holds the values of the environment, and passed the check with them.
    | ok s => exact absurd (hloaded s hloading).isUsable henv
  · intro args input hread
    unfold run
    rw [hread]
    rfl

/-- A file that is not there, in an environment that gives a capacity: the default settings hold
    with that capacity, and pass the check. -/
theorem validate_settings_of_missing :
    let env : Environment := ⟨none, some "3", none, none, none, none, some "/home", none⟩
    let tree : FileTree := ⟨.directory [], []⟩
    let args := ["-c", "~/none.yaml", "A"]
    let o : Options := { Options.default with names := ["A"], file := some "~/none.yaml" }
    let s := { Settings.base with capacity := 3 }
    let e := Error.config ("Failed to read config file: " ++ Fault.notFound.message)
    env.IsUsable ∧ Options.read args = .ok o ∧ s.validate = .ok () ∧
      ((settings FileTree.files env o).run tree).1 = (s, warningText e) ∧
      ((run FileTree.files env args ⟨[], false⟩).run tree).1 =
        runWith o env s (warningText e) ⟨[], false⟩ := by
  intro env tree args o s e
  have henv : env.IsUsable := by decide +kernel
  have hread : Options.read args = .ok o := by decide +kernel
  have hloading : ((loaded FileTree.files env o).run tree).1 = .error e := by decide +kernel
  have hs : Settings.default env = s := by decide +kernel
  obtain ⟨hiff, -, hfallback, -, hrun⟩ := validate_settings_iff FileTree.files env o tree
  have houtcome := hfallback e hloading
  rw [hs] at houtcome
  have hvalid := hiff.2 henv
  rw [houtcome] at hvalid
  have hrun' := hrun args ⟨[], false⟩ hread
  rw [houtcome] at hrun'
  exact ⟨henv, hread, hvalid, houtcome, hrun'⟩

/-- A run with refused settings: the environment gives a capacity of zero, the message says that it
    was refused, and the name is converted with that capacity all the same, to nothing. -/
theorem validate_settings_of_zero :
    let env : Environment := ⟨none, some "0", none, some "/settings", none, none, some "/home", none⟩
    let tree : FileTree := ⟨.directory [], []⟩
    let s := ((settings FileTree.files env .default).run tree).1.1
    let reason := "converter.max_output_len must be greater than 0"
    s = { Settings.base with capacity := 0 } ∧ s.validate = .error (.config reason) ∧
      ((run FileTree.files env ["A\\xd6\\xd0"] ⟨[], false⟩).run tree).1.value =
        ⟨0, ⟨"A\\xd6\\xd0 -> \n".toList, warningText (.config reason)⟩⟩ := by
  intro env tree s reason
  exact ⟨by decide +kernel, by decide +kernel, by decide +kernel⟩

end Program

end WifiNames
