import WifiNames.Proofs.Files.Path
import WifiNames.Proofs.Files.Tree
import WifiNames.Proofs.Utf8.Reading

namespace WifiNames.FileTree

open FileNode

/-!
# File trees — what operations leave alone

* `find_eq_ok_iff` — where a path leads.
* `Extends`, `Extends.occupied`, `Extends.readBytes` — a tree in which everything is as it was, and
  what that means for every path.
* `exists_of_writeBytes`, `readText_writeBytes`, `extends_writeBytes` — where a file is written, and
  what is read after that.
* `ExtendsAt`, `extendsAt_createDirectories` — creating directories adds directories only, and only
  where its steps lead.
-/

/-! ### Following paths -/

/-- The steps of a path are followed if nothing is wrong with it. -/
theorem find_eq_ok_iff {t : FileTree} {path : String} {spot : Spot} :
    t.find path = .ok spot ↔ pathFault? path = none ∧ path.isEmpty = false ∧
      Leads [] t.root (t.origin path ++ Path.parts path) spot := by
  rw [find, ← walk_eq_ok_iff]
  cases pathFault? path with
  | some fault => simp
  | none => cases hempty : path.isEmpty <;> simp [walk]

variable {t t' t'' : FileTree} {path : String}

/-- A path leads to what is at its place. -/
theorem isAt_of_find {spot : Spot} (h : t.find path = .ok spot) : IsAt t.root spot := by
  obtain ⟨-, -, hleads⟩ := find_eq_ok_iff.1 h
  exact hleads.isAt (reaches_nil t.root)

theorem occupied_iff :
    t.occupied path = true ↔ ∃ trail node, t.find path = .ok (.taken trail node) := by
  unfold occupied
  split
  · rename_i trail node h
    simp [h]
  · rename_i h
    simp only [Bool.false_eq_true, false_iff]
    rintro ⟨trail, node, hfind⟩
    exact h trail node hfind

/-- What is read where a path leads. -/
theorem readBytes_of_find {trail : Trail} {node : FileNode}
    (h : t.find path = .ok (.taken trail node)) :
    t.readBytes path = node.content?.elim (.error .isDirectory) .ok := by
  unfold readBytes
  rw [h]
  cases node <;> rfl

/-- A path leads to the same place in a tree that has the same directories. -/
theorem find_transfer {spot : Spot} (h : t.find path = .ok spot)
    (horigin : t'.workingDirectory = t.workingDirectory)
    (hdirectories : ∀ names, t.root.at? names = some none → t'.root.at? names = some none)
    {held : Option Bytes} (hheld : t'.root.at? spot.names = some held) :
    ∃ trail node, t'.find path = .ok (.taken trail node) ∧ node.content? = held := by
  obtain ⟨hfault, hempty, hleads⟩ := find_eq_ok_iff.1 h
  obtain ⟨trail, node, hleads', hnames⟩ :=
    hleads.transfer (reaches_nil _) (reaches_nil t'.root) rfl hdirectories hheld
  -- The checks look at the path alone, and the working directory is the same.
  refine ⟨trail, node, ?_, ?_⟩
  · rw [find_eq_ok_iff]
    refine ⟨hfault, hempty, ?_⟩
    rw [origin, horigin]
    exact hleads'
  · have hat := Reaches.at?_eq (hleads'.isAt (reaches_nil _))
    rw [hnames, hheld] at hat
    exact (Option.some.inj hat).symm

/-! ### Growth -/

/-- Whether a tree has everything that another one has, as it is there. -/
structure Extends (t t' : FileTree) : Prop where
  workingDirectory_eq : t'.workingDirectory = t.workingDirectory
  at?_of : ∀ names held, t.root.at? names = some held → t'.root.at? names = some held

theorem Extends.refl (t : FileTree) : Extends t t :=
  ⟨rfl, fun _ _ h => h⟩

theorem Extends.trans (h : Extends t t') (h' : Extends t' t'') : Extends t t'' :=
  ⟨h'.workingDirectory_eq.trans h.workingDirectory_eq,
    fun names held hheld => h'.at?_of names held (h.at?_of names held hheld)⟩

/-- What a path leads to, it leads to in the larger tree. -/
theorem Extends.find (h : Extends t t') {trail : Trail} {node : FileNode}
    (hfind : t.find path = .ok (.taken trail node)) :
    ∃ trail' node', t'.find path = .ok (.taken trail' node') ∧
      node'.content? = node.content? := by
  have hat := Reaches.at?_eq (isAt_of_find hfind)
  exact find_transfer hfind h.workingDirectory_eq (fun names => h.at?_of names none)
    (h.at?_of _ _ hat)

theorem Extends.occupied (h : Extends t t') (hpath : t.occupied path = true) :
    t'.occupied path = true := by
  rw [occupied_iff] at hpath ⊢
  obtain ⟨trail, node, hfind⟩ := hpath
  obtain ⟨trail', node', hfind', -⟩ := h.find hfind
  exact ⟨trail', node', hfind'⟩

/-- What is read where something was is read in the larger tree. -/
theorem Extends.readBytes (h : Extends t t') (hpath : t.occupied path = true) :
    t'.readBytes path = t.readBytes path := by
  obtain ⟨trail, node, hfind⟩ := occupied_iff.1 hpath
  obtain ⟨trail', node', hfind', hcontent⟩ := h.find hfind
  rw [readBytes_of_find hfind, readBytes_of_find hfind', hcontent]

/-- At a free place nothing that was there changes. -/
theorem extends_put {trail : Trail} (htrail : IsTrail t.root trail)
    (hfree : t.root.at? (Trail.names trail) = none) (new : FileNode) :
    Extends t (t.put trail new) := by
  refine ⟨rfl, ?_⟩
  intro names held hheld
  -- A place at or below the free one held nothing, all other places are left alone.
  by_cases hnames : Trail.names trail <+: names
  · obtain ⟨below, rfl⟩ := hnames
    rw [at?, Option.map_eq_none_iff] at hfree
    rw [at?, get?_append, hfree] at hheld
    cases hheld
  · exact (at?_graft_elsewhere htrail new hnames).trans hheld

/-! ### Writing -/

/-- A file is written to the place that its path leads to, unless there is a directory. -/
theorem exists_of_writeBytes {content : Bytes} (h : t.writeBytes path content = .ok t') :
    ∃ spot trail, t.find path = .ok spot ∧ spot.names = Trail.names trail ∧
      IsTrail t.root trail ∧ t.root.at? (Trail.names trail) ≠ some none ∧
      t' = t.put trail (.file content) := by
  unfold writeBytes findFile at h
  -- A path that asks for a directory fails, whatever it leads to.
  by_cases hslash : ((pathFault? path).isNone && Path.asksForDirectory path) = true
  · rw [if_pos hslash] at h
    cases hwalk : t.walk (t.origin path ++ (Path.steps path).dropLast ++ ["."]) <;>
      · rw [hwalk] at h
        cases h
  · rw [if_neg hslash] at h
    cases hfind : t.find path with
    | error fault => rw [hfind] at h; cases h
    | ok spot =>
      rw [hfind] at h
      have hat := isAt_of_find hfind
      -- Only a free spot or a file is written to.
      cases spot with
      | free trail =>
        cases h
        exact ⟨_, trail, rfl, rfl, hat.1, by simp [at?, hat.2], rfl⟩
      | taken trail node =>
        cases node with
        | directory entries => cases h
        | file old =>
          cases h
          exact ⟨_, trail, rfl, rfl, hat.isTrail, by simp [hat.at?_eq, content?], rfl⟩

/-- What was written is read. -/
theorem readText_writeBytes {text : Text} (h : t.writeBytes path (Utf8.encode text) = .ok t') :
    t'.occupied path = true ∧ t'.readText path = .ok text := by
  obtain ⟨spot, trail, hfind, hnames, htrail, hplace, hput⟩ := exists_of_writeBytes h
  have horigin : t'.workingDirectory = t.workingDirectory := by
    rw [hput]
    rfl
  -- No directory has gone: there is none at the place, and so there is none below it.
  have hdirectories : ∀ names, t.root.at? names = some none → t'.root.at? names = some none := by
    intro names hdirectory
    by_cases hbelow : Trail.names trail <+: names
    · obtain ⟨below, rfl⟩ := hbelow
      exact absurd (at?_of_append hdirectory) hplace
    · rw [hput]
      exact (at?_graft_elsewhere htrail _ hbelow).trans hdirectory
  -- At the place itself there is the new content.
  have hheld : t'.root.at? spot.names = some (some (Utf8.encode text)) := by
    have hgraft := at?_graft htrail (.file (Utf8.encode text)) []
    rw [List.append_nil] at hgraft
    rw [hnames, hput]
    exact hgraft
  obtain ⟨trail', node, hfind', hcontent⟩ := find_transfer hfind horigin hdirectories hheld
  have hdecode : Utf8.decode? (Utf8.encode text) = some text := Utf8.decode?_eq_some_iff.2 rfl
  refine ⟨occupied_iff.2 ⟨trail', node, hfind'⟩, ?_⟩
  simp only [readText, readBytes_of_find hfind', hcontent, Option.elim_some, hdecode]

/-- A file that was missing is written without a change to anything else. -/
theorem extends_writeBytes {content : Bytes} (h : t.writeBytes path content = .ok t')
    (hpath : t.occupied path = false) : Extends t t' := by
  obtain ⟨spot, trail, hfind, hnames, htrail, -, rfl⟩ := exists_of_writeBytes h
  apply extends_put htrail
  have hat := isAt_of_find hfind
  -- Since nothing was found on the path, its spot is a free one.
  cases spot with
  | free trail' =>
    rw [← hnames, at?, Option.map_eq_none_iff]
    exact hat.2
  | taken trail' node =>
    rw [occupied_iff.2 ⟨trail', node, hfind⟩] at hpath
    cases hpath

/-! ### Creating directories -/

/-- Whether a tree has everything that another one has, and more only at places of one kind. -/
structure ExtendsAt (p : List String → Prop) (t t' : FileTree) : Prop extends Extends t t' where
  of_at? : ∀ names held, t'.root.at? names = some held →
    t.root.at? names = some held ∨ p names

variable {p : List String → Prop}

theorem ExtendsAt.refl (t : FileTree) : ExtendsAt p t t :=
  ⟨Extends.refl t, fun _ _ h => Or.inl h⟩

theorem ExtendsAt.trans (h : ExtendsAt p t t') (h' : ExtendsAt p t' t'') : ExtendsAt p t t'' := by
  refine ⟨h.toExtends.trans h'.toExtends, ?_⟩
  intro names held hheld
  rcases h'.of_at? names held hheld with hheld | hp
  · exact h.of_at? names held hheld
  · exact Or.inr hp

/-- One directory is created where its steps lead, and it is empty. -/
theorem extendsAt_createDirectory {steps : List String}
    (hp : ∀ spot, Leads [] t.root steps spot → p spot.names)
    (h : t.createDirectory steps = .ok t') : ExtendsAt p t t' := by
  unfold createDirectory walk at h
  cases hwalk : t.root.walk [] steps with
  | error fault => rw [hwalk] at h; cases h
  | ok spot =>
    rw [hwalk] at h
    have hleads := walk_eq_ok_iff.1 hwalk
    -- A directory that is there is left as it is; only at a free spot a new one is put.
    cases spot with
    | taken trail node =>
      cases node with
      | file content => cases h
      | directory entries =>
        cases h
        exact ExtendsAt.refl t
    | free trail =>
      cases h
      have hat := hleads.isAt (reaches_nil _)
      refine ⟨extends_put hat.1 (by simp [at?, hat.2]) _, ?_⟩
      intro names held hheld
      by_cases hnames : Trail.names trail <+: names
      · right
        obtain ⟨below, rfl⟩ := hnames
        have hgraft := at?_graft hat.1 (.directory []) below
        change (t.put trail (.directory [])).root.at? _ = _ at hgraft
        rw [hgraft] at hheld
        -- The new directory is empty: there is more at its own place, and not below it.
        cases below with
        | nil =>
          rw [List.append_nil]
          exact hp _ hleads
        | cons name below => cases hheld
      · left
        rw [← hheld]
        exact (at?_graft_elsewhere hat.1 _ hnames).symm

/-- What is there after a directory was to be created, with the way to it made first. -/
theorem extendsAt_createBelow {steps : List String}
    {above : FileTree → Except Fault Unit × FileTree}
    (hp : ∀ t : FileTree, ∀ spot, Leads [] t.root steps spot → p spot.names)
    (habove : ∀ t, ExtendsAt p t (above t).2) : ExtendsAt p t (t.createBelow steps above).2 := by
  -- To try and to fail leaves the tree as it is.
  have hsettle : ∀ t : FileTree, ExtendsAt p t (t.settle (t.createDirectory steps)).2 := by
    intro t
    cases hcreate : t.createDirectory steps with
    | error fault => exact ExtendsAt.refl t
    | ok t' => exact extendsAt_createDirectory (hp t) hcreate
  unfold createBelow
  split
  · split
    · rename_i t' hmade
      have hstep := habove t
      rw [hmade] at hstep
      exact hstep.trans (hsettle t')
    · exact habove t
  · exact hsettle t

theorem extendsAt_createFrom {start steps : List String}
    (hp : ∀ above, above <:+ steps → ∀ t : FileTree, ∀ spot,
      Leads [] t.root (start ++ above.reverse) spot → p spot.names) (t : FileTree) :
    ExtendsAt p t (createFrom start steps t).2 := by
  induction steps generalizing t with
  | nil => exact ExtendsAt.refl t
  | cons step above ih =>
    apply extendsAt_createBelow (hp _ (List.suffix_refl _))
    -- The way to a directory above is the same way cut short.
    apply ih
    intro shorter hshorter
    exact hp shorter (hshorter.trans (List.suffix_cons step above))

theorem extendsAt_createDirectories_of
    (hpath : ∀ t' : FileTree, ∀ spot,
      Leads [] t'.root (t.origin path ++ Path.steps path) spot → p spot.names)
    (habove : ∀ steps, steps <+: literal (Path.steps path) → ∀ t' : FileTree, ∀ spot,
      Leads [] t'.root (t.origin path ++ steps) spot → p spot.names) :
    ExtendsAt p t (t.createDirectories path).2 := by
  unfold createDirectories
  split
  · exact ExtendsAt.refl t
  · apply extendsAt_createBelow hpath
    apply extendsAt_createFrom
    intro above hsuffix
    apply habove
    -- The steps are taken from the last one, so what is left of them is a beginning of the path.
    have hprefix := List.reverse_prefix.2 hsuffix
    rw [List.reverse_reverse] at hprefix
    exact hprefix.trans (List.dropLast_prefix _)

/-- Whatever becomes of it, creating directories changes nothing that was there. -/
theorem extends_createDirectories (t : FileTree) (path : String) :
    Extends t (t.createDirectories path).2 := by
  have h : ExtendsAt (fun _ => True) t (t.createDirectories path).2 :=
    extendsAt_createDirectories_of (fun _ _ _ => trivial) fun _ _ _ _ _ => trivial
  exact h.toExtends

/-- Where the path never goes back up, there is more only on the way to the directory. -/
theorem extendsAt_createDirectories (hup : ".." ∉ t.origin path ++ Path.steps path) :
    ExtendsAt (· <+: literal (t.origin path ++ Path.steps path)) t
      (t.createDirectories path).2 := by
  apply extendsAt_createDirectories_of
  · intro t' spot hleads
    rw [hleads.names_eq hup]
    exact List.prefix_refl _
  · intro steps hsteps t' spot hleads
    -- A beginning of the path goes back up no more than the path does.
    have hup' : ".." ∉ t.origin path ++ steps := by
      intro hmem
      apply hup
      rcases List.mem_append.1 hmem with hmem | hmem
      · exact List.mem_append_left _ hmem
      · exact List.mem_append_right _ (List.mem_filter.1 (hsteps.subset hmem)).1
    have hliteral : literal steps <+: literal (Path.steps path) := by
      have hfilter := hsteps.filter (· != ".")
      change literal steps <+: literal (literal (Path.steps path)) at hfilter
      rwa [literal_literal] at hfilter
    rw [hleads.names_eq hup', Trail.names_nil, List.nil_append, literal_append, literal_append]
    exact (List.prefix_append_right_inj _).2 hliteral

/-- In a directory that had to be created there is no file yet. -/
theorem occupied_createDirectories {dir name : String} (hname : Path.IsPlainName name)
    (hup : ".." ∉ t.origin dir ++ Path.steps dir)
    (h : t.occupied (Path.join dir name) = false) :
    (t.createDirectories dir).2.occupied (Path.join dir name) = false := by
  rw [Bool.eq_false_iff, ne_eq, occupied_iff]
  rintro ⟨trail, node, hfind⟩
  have hgrowth := extendsAt_createDirectories hup
  have horigin : (t.createDirectories dir).2.origin (Path.join dir name) = t.origin dir := by
    rw [origin, origin, Path.isAbsolute_join hname, hgrowth.workingDirectory_eq]
  obtain ⟨hfault, hempty, hleads⟩ := find_eq_ok_iff.1 hfind
  rw [horigin, Path.parts_join hname, ← List.append_assoc] at hleads
  -- The name stands below the directory, where nothing was created.
  have hnames : Trail.names trail = literal (t.origin dir ++ Path.steps dir) ++ [name] := by
    have hup' : ".." ∉ t.origin dir ++ Path.steps dir ++ [name] := by
      rw [List.mem_append, not_or]
      exact ⟨hup, by simpa using Ne.symm hname.ne_up⟩
    refine (hleads.names_eq hup').trans ?_
    rw [literal_append, Trail.names_nil, List.nil_append]
    simp [literal, hname.ne_dot]
  have hat := Reaches.at?_eq (hleads.isAt (reaches_nil _))
  rw [hnames] at hat
  rcases hgrowth.of_at? _ _ hat with hheld | hcreated
  · -- What is there now was there before, and the path would have led to it.
    obtain ⟨trail', node', hleads'⟩ := exists_leads_concat hup ⟨hname.ne_dot, hname.ne_up⟩
      (fun _ => hleads.le_nameLimit) hheld
    have hfind' : t.find (Path.join dir name) = .ok (.taken trail' node') := by
      rw [find_eq_ok_iff]
      refine ⟨hfault, hempty, ?_⟩
      rw [origin, Path.isAbsolute_join hname, Path.parts_join hname, ← List.append_assoc]
      exact hleads'
    rw [occupied_iff.2 ⟨trail', node', hfind'⟩] at h
    cases h
  · -- What was created lies on the way to the directory, which is too short for the name.
    have hlength := hcreated.length_le
    rw [List.length_append, List.length_singleton] at hlength
    omega

end WifiNames.FileTree
