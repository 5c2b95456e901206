import WifiNames.Proofs.Settings.Store
import WifiNames.Proofs.Settings.Written

namespace WifiNames.Settings

/-!
# Settings — what is loaded after saving

Saved settings come back with the values of the environment in the place of their own, if these pass
the check.  What was loaded holds those values already, so saving and loading it again changes
nothing.  No text is lost on the way: what is read from written settings is `parse_write`.

* `validate_source`, `override_source` — where settings come from does not matter to either.
* `source_of_ofFile` — settings that are read from a file name it.
* `ofFile_write` — what is read from a text that settings were written to.
* `run_loadFrom_of_save` — what is loaded from a file that settings were saved to.
* `IsLoaded.override_eq` — loaded settings hold the values of the environment.
* `reloads` — **saving and loading.**
-/

variable {env : Environment} {s : Settings}

@[simp] theorem validate_source (s : Settings) (source : Option String) :
    ({ s with source := source } : Settings).validate = s.validate := rfl

@[simp] theorem override_source (env : Environment) (s : Settings) (source : Option String) :
    override env { s with source := source } = { override env s with source := source } := rfl

/-- Loaded settings hold the values of the environment already. -/
theorem IsLoaded.override_eq (h : IsLoaded env s) : override env s = s := by
  obtain ⟨-, given, rfl⟩ := h
  exact override_override env given

/-- What the environment gives is what the settings have then. -/
theorem override_fields (env : Environment) (s : Settings) :
    (∀ label ∈ env.charset, (override env s).charset = label) ∧
    (∀ capacity ∈ env.capacity?, (override env s).capacity = capacity) ∧
    ∀ dumps ∈ env.dumps?, (override env s).dumpsHistory = dumps := by
  unfold override
  refine ⟨?_, ?_, ?_⟩
  · intro label hlabel
    rw [Option.mem_def] at hlabel
    simp [hlabel]
  · intro capacity hcapacity
    rw [Option.mem_def] at hcapacity
    simp [hcapacity]
  · intro dumps hdumps
    rw [Option.mem_def] at hdumps
    simp [hdumps]

/-- Settings that are read from a file name it as where they come from. -/
theorem source_of_ofFile {path : String} {t : Text} (h : ofFile env path t = .ok s) :
    s.source = some path := by
  obtain ⟨given, -, rfl⟩ := exists_of_ofFile h
  rfl

/-- What is read from a text that settings were written to. -/
theorem ofFile_write (env : Environment) (s : Settings) (path : String) :
    ofFile env path s.write = match (override env s).validate with
      | .ok () => .ok { override env s with source := some path }
      | .error e => .error e := by
  unfold ofFile
  rw [parse_write]
  show (override env { s with source := some path }).validate >>= (fun _ =>
    pure (override env { s with source := some path })) = _
  rw [override_source, validate_source]
  cases (override env s).validate <;> rfl

/-- What is loaded from a file that settings were saved to. -/
theorem run_loadFrom_of_save {path : String} {t t' : FileTree}
    (hsave : (save FileTree.files s path).run t = (.ok (), t')) (env : Environment) :
    (loadFrom FileTree.files env path).run t' = (match (override env s).validate with
      | .ok () => .ok { override env s with source := some path }
      | .error e => .error e, t') := by
  rw [run_save] at hsave
  cases hwrite : t.writeBytes path (Utf8.encode s.write) with
  | error fault =>
    rw [hwrite] at hsave
    cases hsave
  | ok written =>
    rw [hwrite] at hsave
    cases hsave
    obtain ⟨-, htext⟩ := FileTree.readText_writeBytes hwrite
    rw [run_loadFrom, htext]
    exact Prod.ext (ofFile_write env s path) rfl

/-- What comes of saving settings and loading them, in an environment. -/
structure Reloads (env : Environment) : Prop where
  /-- Saved settings come back if they pass the check with the values of the environment, and then
      with these values. -/
  loaded : ∀ s path t t', (save FileTree.files s path).run t = (.ok (), t') →
    (override env s).validate = .ok () →
    (loadFrom FileTree.files env path).run t' =
      (.ok { override env s with source := some path }, t')
  /-- Otherwise the settings are refused. -/
  refused : ∀ s path t t', (save FileTree.files s path).run t = (.ok (), t') →
    (override env s).validate ≠ .ok () →
    ∃ reason, (loadFrom FileTree.files env path).run t' = (.error (.config reason), t')
  /-- What was loaded from a file comes back when it is saved there, and also from any other file
      that it is saved to. -/
  again : ∀ s path t, ((loadFrom FileTree.files env path).run t).1 = .ok s →
    s.source = some path ∧
    ∀ path' t₁ t₂, (save FileTree.files s path').run t₁ = (.ok (), t₂) →
      (loadFrom FileTree.files env path').run t₂ = (.ok { s with source := some path' }, t₂)
  /-- Whatever a file holds, the values of the environment are those of the settings. -/
  fields : ∀ s path t, ((loadFrom FileTree.files env path).run t).1 = .ok s →
    (∀ label ∈ env.charset, s.charset = label) ∧
    (∀ capacity ∈ env.capacity?, s.capacity = capacity) ∧
    ∀ dumps ∈ env.dumps?, s.dumpsHistory = dumps

theorem reloads (env : Environment) : Reloads env := by
  refine ⟨?_, ?_, ?_, ?_⟩
  · intro s path t t' hsave hvalid
    rw [run_loadFrom_of_save hsave env, hvalid]
  · intro s path t t' hsave hrefused
    rw [run_loadFrom_of_save hsave env]
    cases hvalid : (override env s).validate with
    | error e =>
      -- Settings are refused with a message about them, and with nothing else.
      obtain ⟨reason, rfl⟩ := exists_of_validate_error hvalid
      exact ⟨reason, rfl⟩
    | ok _ => exact absurd hvalid hrefused
  · intro s path t hload
    have hloaded := isLoaded_of_loadFrom hload
    refine ⟨?_, ?_⟩
    · rw [run_loadFrom] at hload
      cases hread : t.readText path with
      | error fault => rw [hread] at hload; cases hload
      | ok text =>
        rw [hread] at hload
        exact source_of_ofFile hload
    · intro path' t₁ t₂ hsave
      -- Loaded settings hold the values of the environment already and pass the check.
      rw [run_loadFrom_of_save hsave env, hloaded.override_eq, hloaded.validate_eq]
  · intro s path t hload
    have hfields := override_fields env s
    rwa [(isLoaded_of_loadFrom hload).override_eq] at hfields

/-- Saved default settings come back with the charset and the capacity that an environment gives, and
    are refused in one that gives a capacity of zero. -/
theorem reloads_of_overridden :
    let env : Environment := ⟨some "gb18030", some "3", none, none, none, none, none, none⟩
    let unusable : Environment := ⟨none, some "0", none, none, none, none, none, none⟩
    let t : FileTree := ⟨.directory [], []⟩
    let t' := ((save FileTree.files base "/a.yaml").run t).2
    Reloads env ∧ Reloads unusable ∧ (save FileTree.files base "/a.yaml").run t = (.ok (), t') ∧
      (loadFrom FileTree.files env "/a.yaml").run t' =
        (.ok { base with charset := "gb18030", capacity := 3, source := some "/a.yaml" }, t') ∧
      ∃ reason, (loadFrom FileTree.files unusable "/a.yaml").run t' = (.error (.config reason), t') := by
  intro env unusable t t'
  have hsave : (save FileTree.files base "/a.yaml").run t = (.ok (), t') :=
    Prod.ext (by decide +kernel) rfl
  have hvalid : (override env base).validate = .ok () := by decide +kernel
  have hrefused : (override unusable base).validate ≠ .ok () := by decide +kernel
  have hloaded := (reloads env).loaded base "/a.yaml" t t' hsave hvalid
  refine ⟨reloads env, reloads unusable, hsave, ?_, (reloads unusable).refused _ _ t t' hsave hrefused⟩
  rw [hloaded]
  have hfields : override env base = { base with charset := "gb18030", capacity := 3 } := by
    decide +kernel
  rw [hfields]

end WifiNames.Settings
