import WifiNames.Proofs.Files.Growth
import WifiNames.Proofs.Settings
import WifiNames.Proofs.Settings.Written

namespace WifiNames

/-!
# Settings — what loading does to files

Loading makes the directory of the settings file first.  If the file is there then, it is read;
otherwise the default settings are checked and written.

* `FileTree.ensured`, `FileTree.extends_ensured`, `FileTree.occupied_ensured` — what is there once a
  directory was made.
* `FileTree.run_ensureDirectory_of_occupied` — where a file is in it, nothing has to be made.
* `Settings.Loads`, `Settings.loads_loadIn` — **the five ways in which loading from a directory can go.**
* `Settings.LoadsSoundly`, `Settings.loadsSoundly` — what is loaded can be loaded again, files are
  kept, and defaults that are refused are not written.
-/

namespace FileTree

variable {t : FileTree} {dir name path : String}

@[simp] theorem run_occupied (t : FileTree) (path : String) :
    (files.occupied path).run t = (t.occupied path, t) := rfl

@[simp] theorem run_createDirectories (t : FileTree) (path : String) :
    (files.createDirectories path).run t = t.createDirectories path := rfl

@[simp] theorem run_read (t : FileTree) (path : String) :
    (files.read path).run t = (t.readText path, t) := rfl

@[simp] theorem run_write (t : FileTree) (path : String) (text : Text) :
    (files.write path text).run t = t.settle (t.writeBytes path (Utf8.encode text)) := rfl

/-! ### Making a directory -/

/-- What is there once a directory was made, or the attempt has failed. -/
def ensured (t : FileTree) (dir : String) : FileTree :=
  if t.occupied dir then t else (t.createDirectories dir).2

/-- A directory is made unless something is in its place. -/
theorem run_ensureDirectory (t : FileTree) (dir : String) :
    (files.ensureDirectory dir).run t = (.ok (), t.ensured dir) ∨
      ∃ reason, (files.ensureDirectory dir).run t = (.error (.config reason), t.ensured dir) := by
  unfold Files.ensureDirectory ensured
  rw [Settings.run_bind_files, run_occupied]
  by_cases hdir : t.occupied dir = true
  · rw [if_pos hdir, if_pos hdir]
    exact Or.inl rfl
  · rw [if_neg hdir, if_neg hdir, Settings.run_bind_files, run_createDirectories]
    cases (t.createDirectories dir).1 with
    | error fault => exact Or.inr ⟨_, rfl⟩
    | ok _ => exact Or.inl rfl

theorem ensureDirectory_snd (t : FileTree) (dir : String) :
    ((files.ensureDirectory dir).run t).2 = t.ensured dir := by
  rcases run_ensureDirectory t dir with h | ⟨reason, h⟩ <;> rw [h]

/-- Whatever becomes of it, nothing that was there changes. -/
theorem extends_ensured (t : FileTree) (dir : String) : Extends t (t.ensured dir) := by
  unfold ensured
  split
  · exact Extends.refl t
  · exact extends_createDirectories t dir

/-- No file comes into a directory that is made, unless its path goes back up. -/
theorem occupied_ensured (hname : Path.IsPlainName name)
    (hup : ".." ∉ t.origin dir ++ Path.steps dir)
    (h : t.occupied (Path.join dir name) = false) :
    (t.ensured dir).occupied (Path.join dir name) = false := by
  unfold ensured
  split
  · exact h
  · exact occupied_createDirectories hname hup h

/-- Where something is in a directory, the directory need not be made. -/
theorem run_ensureDirectory_of_occupied (hname : Path.IsPlainName name)
    (h : t.occupied (Path.join dir name) = true) :
    (files.ensureDirectory dir).run t = (.ok (), t) := by
  obtain ⟨trail, node, hfind⟩ := occupied_iff.1 h
  obtain ⟨hfault, -, hleads⟩ := find_eq_ok_iff.1 hfind
  rw [origin, Path.isAbsolute_join hname, Path.parts_join hname, ← List.append_assoc] at hleads
  -- The way to the file leads through its directory, which is therefore there.
  obtain ⟨trail', entries, hdir, -⟩ := hleads.of_append (List.cons_ne_nil name [])
  have hcreate : t.createDirectories dir = (.ok (), t) := by
    have hwalk : t.walk (t.origin dir ++ Path.steps dir) = .ok (.taken trail' (.directory entries)) :=
      FileNode.walk_eq_ok_iff.2 hdir
    simp only [createDirectories, pathFault?_of_join hname hfault, createBelow, createDirectory,
      hwalk, settle]
  unfold Files.ensureDirectory
  rw [Settings.run_bind_files, run_occupied]
  by_cases hdir : t.occupied dir = true
  · rw [if_pos hdir]
    rfl
  · rw [if_neg hdir, Settings.run_bind_files, run_createDirectories, hcreate]
    rfl

end FileTree

namespace Settings

/-! ### Loading -/

variable {env : Environment} {dir : String} {t : FileTree} {s : Settings}

/-- What is read from the settings file. -/
theorem run_loadFrom (env : Environment) (path : String) (t : FileTree) :
    (loadFrom FileTree.files env path).run t =
      (match t.readText path with
        | .ok text => ofFile env path text
        | .error fault => .error (.config ("Failed to read config file: " ++ fault.message)), t) := by
  unfold loadFrom
  simp only [run_bind_files, FileTree.run_read]
  cases t.readText path <;> rfl

/-- What is written to a file. -/
theorem run_save (s : Settings) (path : String) (t : FileTree) :
    (save FileTree.files s path).run t =
      match t.writeBytes path (Utf8.encode s.write) with
      | .ok t' => (.ok (), t')
      | .error fault =>
        (.error (.config ("Failed to write config file: " ++ fault.message)), t) := by
  unfold save
  rw [run_bind_files, FileTree.run_write]
  cases t.writeBytes path (Utf8.encode s.write) <;> rfl

/-- The default settings are written if they are not refused. -/
theorem run_create (env : Environment) (path : String) (t : FileTree) :
    (create FileTree.files env path).run t =
      match (default env).validate with
      | .error e => (.error e, t)
      | .ok () =>
        match t.writeBytes path (Utf8.encode (default env).write) with
        | .ok t' => (.ok (default env), t')
        | .error fault =>
          (.error (.config ("Failed to write config file: " ++ fault.message)), t) := by
  unfold create
  cases hvalid : (default env).validate with
  | error e =>
    simp only [hvalid]
    rfl
  | ok _ =>
    simp only [hvalid]
    rw [run_bind_files, run_save]
    cases t.writeBytes path (Utf8.encode (default env).write) <;> rfl

/-- Settings are refused with a message about them. -/
theorem exists_of_validate_error {e : Error} (h : s.validate = .error e) :
    ∃ reason, e = .config reason := by
  unfold validate at h
  split at h
  · cases h
    exact ⟨_, rfl⟩
  · split at h <;> cases h
    exact ⟨_, rfl⟩

/-- How loading from a directory can go: from a tree `t`, in which the directory is made with `made`
    as what is there then, to an outcome and what is there in the end. -/
inductive Loads (env : Environment) (dir : String) (t made : FileTree) :
    Except Error Settings → FileTree → Prop where
  /-- The directory cannot be made. -/
  | unreachable (reason : String) :
    ((FileTree.files.ensureDirectory dir).run t).1 = .error (.config reason) →
    Loads env dir t made (.error (.config reason)) made
  /-- The file is there. -/
  | read : made.occupied (fileIn dir) = true →
    Loads env dir t made ((loadFrom FileTree.files env (fileIn dir)).run made).1 made
  /-- The default settings are refused. -/
  | refused (reason : String) : made.occupied (fileIn dir) = false →
    (default env).validate = .error (.config reason) →
    Loads env dir t made (.error (.config reason)) made
  /-- The default settings cannot be written. -/
  | unwritable (reason : String) : made.occupied (fileIn dir) = false →
    (default env).validate = .ok () →
    ((save FileTree.files (default env) (fileIn dir)).run made).1 = .error (.config reason) →
    Loads env dir t made (.error (.config reason)) made
  /-- The default settings are written. -/
  | written (t' : FileTree) : made.occupied (fileIn dir) = false →
    (default env).validate = .ok () →
    made.writeBytes (fileIn dir) (Utf8.encode (default env).write) = .ok t' →
    Loads env dir t made (.ok (default env)) t'

theorem loads_create {made : FileTree} (hfile : made.occupied (fileIn dir) = false) :
    Loads env dir t made ((create FileTree.files env (fileIn dir)).run made).1
      ((create FileTree.files env (fileIn dir)).run made).2 := by
  rw [run_create]
  cases hvalid : (default env).validate with
  | error e =>
    obtain ⟨reason, rfl⟩ := exists_of_validate_error hvalid
    exact .refused reason hfile hvalid
  | ok _ =>
    have hsave := run_save (default env) (fileIn dir) made
    cases hwrite : made.writeBytes (fileIn dir) (Utf8.encode (default env).write) with
    | error fault =>
      rw [hwrite] at hsave
      exact .unwritable _ hfile hvalid (congrArg Prod.fst hsave)
    | ok t' => exact .written t' hfile hvalid hwrite

/-- **Loading.** There is no other way for it to go. -/
theorem loads_loadIn (env : Environment) (dir : String) (t : FileTree) :
    Loads env dir t (t.ensured dir) ((loadIn FileTree.files env dir).run t).1
      ((loadIn FileTree.files env dir).run t).2 := by
  unfold loadIn
  rw [run_bind_files]
  rcases FileTree.run_ensureDirectory t dir with h | ⟨reason, h⟩
  · -- The directory is there now: what follows depends on whether the file is in it.
    rw [h]
    show Loads env dir t _ ((FileTree.files.occupied _ >>= _ : StateM FileTree _).run _).1
      ((FileTree.files.occupied _ >>= _ : StateM FileTree _).run _).2
    rw [run_bind_files, FileTree.run_occupied]
    by_cases hfile : (t.ensured dir).occupied (fileIn dir) = true
    · rw [if_pos hfile]
      have hkept := congrArg Prod.snd (run_loadFrom env (fileIn dir) (t.ensured dir))
      show Loads env dir t _ _ ((loadFrom FileTree.files env (fileIn dir)).run _).2
      rw [hkept]
      exact .read hfile
    · rw [if_neg hfile]
      exact loads_create (Bool.eq_false_iff.2 hfile)
  · rw [h]
    exact .unreachable reason (congrArg Prod.fst h)

/-! ### The settings file -/

/-- With a place for the settings, they are loaded from there. -/
theorem load_of_ok (hdir : env.settingsDirectory = .ok dir) :
    load FileTree.files env = loadIn FileTree.files env dir := by
  rw [load, hdir]

/-- Without one nothing is loaded, and nothing is done to any file. -/
theorem load_of_error {e : Error} (hdir : env.settingsDirectory = .error e) (t : FileTree) :
    (load FileTree.files env).run t = (.error e, t) := by
  rw [load, hdir]
  rfl

/-- What is wrong then is that the place cannot be told. -/
theorem exists_of_settingsDirectory_error {e : Error} (hdir : env.settingsDirectory = .error e) :
    ∃ reason, e = .config reason := by
  unfold Environment.settingsDirectory at hdir
  split at hdir
  case h_4 =>
    cases hdir
    exact ⟨_, rfl⟩
  all_goals cases hdir

/-! ### Loading again -/

theorem isPlainName_config : Path.IsPlainName "config.yaml" := by
  constructor <;> decide

/-- Where the settings file is, loading reads it and changes nothing. -/
theorem run_load_of_occupied (hdir : env.settingsDirectory = .ok dir)
    (h : t.occupied (fileIn dir) = true) :
    (load FileTree.files env).run t = (loadFrom FileTree.files env (fileIn dir)).run t := by
  rw [load_of_ok hdir, loadIn, run_bind_files,
    FileTree.run_ensureDirectory_of_occupied isPlainName_config h]
  show (FileTree.files.occupied _ >>= _ : StateM FileTree _).run _ = _
  rw [run_bind_files, FileTree.run_occupied, if_pos h]

/-- The environment has the last word already where it had it before. -/
theorem override_override (env : Environment) (s : Settings) :
    override env (override env s) = override env s := by
  unfold override
  cases env.charset <;> cases env.capacity? <;> cases env.dumps? <;> rfl

/-- The default settings, read back from a file, are the default settings but for their source. -/
theorem ofFile_default (hvalid : (default env).validate = .ok ()) (path : String) :
    ofFile env path (default env).write = .ok { default env with source := some path } := by
  have hoverride : override env { default env with source := some path } =
      { default env with source := some path } :=
    override_override env { base with source := some path }
  unfold ofFile
  rw [parse_write]
  show (override env { default env with source := some path }).validate >>= (fun _ =>
    pure (override env { default env with source := some path })) = _
  rw [hoverride]
  show (default env).validate >>= _ = _
  rw [hvalid]
  rfl

variable {outcome : Except Error Settings} {made t' : FileTree}

/-- Nothing that was there is changed by loading, whether or not it succeeds. -/
theorem Loads.isExtended (h : Loads env dir t made outcome t') (hmade : FileTree.Extends t made) :
    FileTree.Extends t t' := by
  cases h with
  | unreachable | read | refused | unwritable => exact hmade
  | written t' hfile hvalid hwrite =>
    exact hmade.trans (FileTree.extends_writeBytes hwrite hfile)

/-- Where settings were loaded, their file is, and it is loaded again. -/
theorem Loads.again (h : Loads env dir t made outcome t') (hdir : env.settingsDirectory = .ok dir)
    (hs : outcome = .ok s) : t'.occupied (fileIn dir) = true ∧ ∃ source,
      (load FileTree.files env).run t' = (.ok { s with source := source }, t') := by
  cases h with
  | unreachable | refused | unwritable => cases hs
  | read hfile =>
    refine ⟨hfile, s.source, ?_⟩
    rw [run_load_of_occupied hdir hfile]
    rw [run_loadFrom] at hs ⊢
    exact Prod.ext hs rfl
  | written t' hfile hvalid hwrite =>
    -- The file holds the default settings as they were written, and is read this time.
    cases hs
    obtain ⟨hoccupied, htext⟩ := FileTree.readText_writeBytes hwrite
    refine ⟨hoccupied, some (fileIn dir), ?_⟩
    rw [run_load_of_occupied hdir hoccupied, run_loadFrom, htext]
    exact Prod.ext (ofFile_default hvalid (fileIn dir)) rfl

/-- Default settings that are refused are not written. -/
theorem Loads.of_validate_ne (h : Loads env dir t made outcome t')
    (hrefused : (default env).validate ≠ .ok ()) (hfile : made.occupied (fileIn dir) = false) :
    (∃ reason, outcome = .error (.config reason)) ∧ t'.occupied (fileIn dir) = false := by
  cases h with
  | unreachable reason | refused reason => exact ⟨⟨reason, rfl⟩, hfile⟩
  -- The file is not there, so it was not read.
  | read hthere =>
    rw [hfile] at hthere
    cases hthere
  | unwritable _ _ hvalid | written _ _ hvalid => exact absurd hvalid hrefused

/-- Loading fails with one of its steps. -/
theorem Loads.exists_cause {e : Error} (h : Loads env dir t made outcome t')
    (he : outcome = .error e) :
    ((FileTree.files.ensureDirectory dir).run t).1 = .error e ∨
      made.occupied (fileIn dir) = true ∧
        ((loadFrom FileTree.files env (fileIn dir)).run made).1 = .error e ∨
      made.occupied (fileIn dir) = false ∧ ((default env).validate = .error e ∨
        ((save FileTree.files (default env) (fileIn dir)).run made).1 = .error e) := by
  cases h with
  | unreachable reason hensure =>
    cases he
    exact Or.inl hensure
  | read hfile => exact Or.inr (Or.inl ⟨hfile, he⟩)
  | refused reason hfile hrefused =>
    cases he
    exact Or.inr (Or.inr ⟨hfile, Or.inl hrefused⟩)
  | unwritable reason hfile _ hsave =>
    cases he
    exact Or.inr (Or.inr ⟨hfile, Or.inr hsave⟩)
  | written => cases he

/-- What comes of loading the settings from the directory `dir`, where `made` is there once it was
    made. -/
structure LoadsSoundly (env : Environment) (dir : String) (t made : FileTree)
    (outcome : Except Error Settings) (t' : FileTree) : Prop where
  /-- Settings that are loaded pass the check. -/
  validate_eq : ∀ s, outcome = .ok s → s.validate = .ok ()
  /-- Their file is there, and it is loaded again with no other settings, except for what they are
      said to come from, and with no change to any file. -/
  again : ∀ s, outcome = .ok s → t'.occupied (fileIn dir) = true ∧ ∃ source,
    (load FileTree.files env).run t' = (.ok { s with source := source }, t')
  /-- Whatever comes of it, all files that were there are kept as they were. -/
  kept : ∀ path, t.occupied path = true →
    t'.occupied path = true ∧ t'.readBytes path = t.readBytes path
  /-- Default settings that are refused are not written. -/
  refused : (default env).validate ≠ .ok () → made.occupied (fileIn dir) = false →
    (∃ reason, outcome = .error (.config reason)) ∧ t'.occupied (fileIn dir) = false
  /-- If the settings file was not there, it is not there once its directory was made either, unless
      the path of the directory goes back up. -/
  missing : ".." ∉ t.origin dir ++ Path.steps dir →
    t.occupied (fileIn dir) = false → made.occupied (fileIn dir) = false
  /-- Nothing fails without a cause: the directory cannot be made, the file is there and fails to be
      loaded, or it is not there and the default settings are refused or fail to be saved. -/
  exists_cause : ∀ e, outcome = .error e →
    ((FileTree.files.ensureDirectory dir).run t).1 = .error e ∨
      made.occupied (fileIn dir) = true ∧
        ((loadFrom FileTree.files env (fileIn dir)).run made).1 = .error e ∨
      made.occupied (fileIn dir) = false ∧ ((default env).validate = .error e ∨
        ((save FileTree.files (default env) (fileIn dir)).run made).1 = .error e)

/-- **Loading is sound**, in every environment and whatever the files are.  Where there is no place
    for the settings, loading fails and does nothing. -/
theorem loadsSoundly (env : Environment) (t : FileTree) :
    (∀ dir, env.settingsDirectory = .ok dir →
      LoadsSoundly env dir t ((FileTree.files.ensureDirectory dir).run t).2
        ((load FileTree.files env).run t).1 ((load FileTree.files env).run t).2) ∧
    ∀ e, env.settingsDirectory = .error e →
      (∃ reason, e = .config reason) ∧ (load FileTree.files env).run t = (.error e, t) := by
  constructor
  · intro dir hdir
    have hloads := loads_loadIn env dir t
    rw [← load_of_ok hdir] at hloads
    have hextends := hloads.isExtended (FileTree.extends_ensured t dir)
    rw [FileTree.ensureDirectory_snd]
    exact {
      validate_eq := fun s hs => (isLoaded_of_load hs).validate_eq
      again := fun s hs => hloads.again hdir hs
      kept := fun path hpath => ⟨hextends.occupied hpath, hextends.readBytes hpath⟩
      refused := hloads.of_validate_ne
      missing := FileTree.occupied_ensured isPlainName_config
      exists_cause := fun e he => hloads.exists_cause he }
  · intro e hdir
    exact ⟨exists_of_settingsDirectory_error hdir, load_of_error hdir t⟩

/-- In an environment that gives nothing but a directory, a settings file is made and loaded again.
    In one that gives nothing at all, not even a home directory, nothing is done. -/
theorem loadsSoundly_of_nothing :
    let env : Environment := ⟨none, none, none, some "/a/b", none, none, some "/home", none⟩
    let nowhere : Environment := ⟨none, none, none, none, none, some "b", none, none⟩
    let t : FileTree := ⟨.directory [], []⟩
    env.settingsDirectory = .ok "/a/b" ∧
      LoadsSoundly env "/a/b" t ((FileTree.files.ensureDirectory "/a/b").run t).2 (.ok base)
        ((load FileTree.files env).run t).2 ∧
      (load FileTree.files nowhere).run t =
        (.error (.config "Unable to determine config directory"), t) := by
  intro env nowhere t
  have hloaded : ((load FileTree.files env).run t).1 = .ok base := by decide +kernel
  have h := (loadsSoundly env t).1 "/a/b" rfl
  rw [hloaded] at h
  exact ⟨rfl, h, ((loadsSoundly nowhere t).2 _ rfl).2⟩

/-- **Where the path goes back up.**  It led nowhere before, but once the directory `/missing` was
    made it leads to a file that was there all along, and that is read.  So what is reported is not
    that the default settings are refused, and the settings file is there. -/
theorem load_of_going_up :
    let env : Environment := ⟨none, some "0", none, some "/missing/..", none, none, some "/home", none⟩
    let t : FileTree :=
      ⟨.directory [("config.yaml", .file (Utf8.encode "converter: [unterminated".toList))], []⟩
    let file := "/missing/../config.yaml"
    let reason := "Failed to parse config file: did not find expected node content"
    (default env).validate ≠ .ok () ∧ env.settingsFile = .ok file ∧ t.occupied file = false ∧
      ((load FileTree.files env).run t).1 = .error (.yaml reason) ∧
      ((load FileTree.files env).run t).2.occupied file = true := by
  intro env t file reason
  have hrefused : (default env).validate ≠ .ok () := by decide +kernel
  have hfile : env.settingsFile = .ok file := by decide +kernel
  exact ⟨hrefused, hfile, by decide +kernel, by decide +kernel, by decide +kernel⟩

end Settings

end WifiNames
