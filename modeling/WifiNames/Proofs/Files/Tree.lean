import WifiNames.Files.Tree

namespace WifiNames

/-!
# File trees — places

A place is a list of names from the root down.  What is at the places is all that a tree is: where a
path leads and what is read there depends on nothing else.

* `FileNode.get?`, `FileNode.at?` — what is at a place.
* `FileNode.IsTrail`, `FileNode.Reaches` — trails lead to places.
* `FileNode.Leads`, `FileNode.walk_eq_ok_iff` — what each step of a path does.
* `FileNode.Leads.isAt` — a path ends where its trail says.
* `FileNode.at?_graft`, `FileNode.at?_graft_elsewhere` — **what a change at one place does to
  all places.**
* `FileNode.Leads.transfer` — a path leads to the same place in another tree that has the
  directories of the first.
-/

/-- The names of a trail from the root down. -/
def Trail.names (trail : Trail) : List String :=
  (trail.map Prod.fst).reverse

@[simp] theorem Trail.names_nil : Trail.names [] = [] := rfl

@[simp] theorem Trail.names_cons (name : String) (entries : List (String × FileNode))
    (trail : Trail) : Trail.names ((name, entries) :: trail) = Trail.names trail ++ [name] := by
  simp [names]

/-- The place of a spot. -/
def Spot.names : Spot → List String
  | taken trail _ | free trail => Trail.names trail

namespace FileNode

/-! ### Places -/

/-- What a node holds under a name. -/
def child? : FileNode → String → Option FileNode
  | .file _, _ => none
  | .directory entries, name => entries.lookup name

/-- What names lead to. -/
def get? (node : FileNode) (names : List String) : Option FileNode :=
  names.foldlM child? node

/-- The content of a file; a directory has none. -/
def content? : FileNode → Option Bytes
  | .file content => some content
  | .directory _ => none

/-- What is at a place, regardless of what a directory there holds. -/
def at? (node : FileNode) (names : List String) : Option (Option Bytes) :=
  (node.get? names).map content?

theorem get?_append (node : FileNode) (a b : List String) :
    node.get? (a ++ b) = (node.get? a).bind (·.get? b) :=
  List.foldlM_append

theorem get?_cons (node : FileNode) (name : String) (names : List String) :
    node.get? (name :: names) = (node.child? name).bind (·.get? names) :=
  List.foldlM_cons

/-- There are directories on the way to anything. -/
theorem at?_of_append_ne_nil {node : FileNode} {a b : List String} {held : Option Bytes}
    (h : node.at? (a ++ b) = some held) (hb : b ≠ []) : node.at? a = some none := by
  obtain ⟨name, names, rfl⟩ := List.exists_cons_of_ne_nil hb
  rw [at?, get?_append] at h
  rw [at?]
  cases hget : node.get? a with
  | none => simp [hget] at h
  | some found =>
    -- A file has nothing below it, so what was passed through is a directory.
    cases found with
    | file content => simp [hget, get?_cons, child?] at h
    | directory entries => rfl

theorem at?_of_append {node : FileNode} {a b : List String} (h : node.at? (a ++ b) = some none) :
    node.at? a = some none := by
  by_cases hb : b = []
  · rwa [hb, List.append_nil] at h
  · exact at?_of_append_ne_nil h hb

/-! ### Trails -/

/-- Whether each step of a trail leads out of the directory that the steps before it lead to. -/
def IsTrail (root : FileNode) : Trail → Prop
  | [] => True
  | (_, entries) :: trail =>
    root.get? (Trail.names trail) = some (.directory entries) ∧ IsTrail root trail

/-- A trail has led from the root to a node. -/
structure Reaches (root : FileNode) (trail : Trail) (node : FileNode) : Prop where
  isTrail : IsTrail root trail
  get?_eq : root.get? (Trail.names trail) = some node

/-- A spot is what is at its place. -/
def IsAt (root : FileNode) : Spot → Prop
  | .taken trail node => Reaches root trail node
  | .free trail => IsTrail root trail ∧ root.get? (Trail.names trail) = none

variable {root : FileNode} {trail : Trail} {node : FileNode}

theorem reaches_nil (root : FileNode) : Reaches root [] root :=
  ⟨trivial, rfl⟩

theorem Reaches.at?_eq (h : Reaches root trail node) :
    root.at? (Trail.names trail) = some node.content? := by
  rw [at?, h.get?_eq]
  rfl

/-- What a directory holds under a name is at the place below it. -/
theorem Reaches.get?_cons {entries : List (String × FileNode)}
    (h : Reaches root trail (.directory entries)) (name : String) :
    root.get? (Trail.names ((name, entries) :: trail)) = entries.lookup name := by
  rw [Trail.names_cons, get?_append, h.get?_eq]
  show FileNode.get? _ [name] = _
  rw [FileNode.get?_cons]
  show (entries.lookup name).bind _ = _
  cases entries.lookup name <;> rfl

theorem Reaches.up {name : String} {above : List (String × FileNode)}
    (h : Reaches root ((name, above) :: trail) node) : Reaches root trail (.directory above) :=
  ⟨h.isTrail.2, h.isTrail.1⟩

theorem Reaches.down {entries : List (String × FileNode)} {name : String} {child : FileNode}
    (h : Reaches root trail (.directory entries)) (hchild : entries.lookup name = some child) :
    Reaches root ((name, entries) :: trail) child :=
  ⟨⟨h.get?_eq, h.isTrail⟩, (h.get?_cons name).trans hchild⟩

/-- A directory holds what is at the places below it. -/
theorem Reaches.exists_child {entries : List (String × FileNode)} {name : String}
    {held : Option Bytes} (h : Reaches root trail (.directory entries))
    (hheld : root.at? (Trail.names trail ++ [name]) = some held) :
    ∃ child, entries.lookup name = some child := by
  rw [at?, ← Trail.names_cons name entries, h.get?_cons] at hheld
  cases hchild : entries.lookup name with
  | none => rw [hchild] at hheld; cases hheld
  | some child => exact ⟨child, rfl⟩

/-- Where there is a directory, a trail has led to it. -/
theorem Reaches.exists_entries (h : Reaches root trail node)
    (hdirectory : root.at? (Trail.names trail) = some none) :
    ∃ entries, node = .directory entries := by
  rw [h.at?_eq, Option.some.injEq] at hdirectory
  cases node with
  | file content => cases hdirectory
  | directory entries => exact ⟨entries, rfl⟩

/-! ### Paths -/

/-- The step `.` stays, `..` goes back up, and any other one down to what has its name. -/
inductive Leads : Trail → FileNode → List String → Spot → Prop where
  | here (trail : Trail) (node : FileNode) : Leads trail node [] (.taken trail node)
  | stay {trail : Trail} {entries : List (String × FileNode)} {rest : List String} {spot : Spot} :
    Leads trail (.directory entries) rest spot →
    Leads trail (.directory entries) ("." :: rest) spot
  | top {entries : List (String × FileNode)} {rest : List String} {spot : Spot} :
    Leads [] (.directory entries) rest spot →
    Leads [] (.directory entries) (".." :: rest) spot
  | up {name : String} {above entries : List (String × FileNode)} {trail : Trail}
    {rest : List String} {spot : Spot} :
    Leads trail (.directory above) rest spot →
    Leads ((name, above) :: trail) (.directory entries) (".." :: rest) spot
  | down {trail : Trail} {entries : List (String × FileNode)} {name : String} {child : FileNode}
    {rest : List String} {spot : Spot} :
    name ≠ "." → name ≠ ".." → name.utf8ByteSize ≤ nameLimit → entries.lookup name = some child →
    Leads ((name, entries) :: trail) child rest spot →
    Leads trail (.directory entries) (name :: rest) spot
  | free {trail : Trail} {entries : List (String × FileNode)} {name : String} :
    name ≠ "." → name ≠ ".." → name.utf8ByteSize ≤ nameLimit → entries.lookup name = none →
    Leads trail (.directory entries) [name] (.free ((name, entries) :: trail))

/-- **Paths.** To follow steps is to do what each of them says. -/
theorem walk_eq_ok_iff {steps : List String} {spot : Spot} :
    walk trail node steps = .ok spot ↔ Leads trail node steps spot := by
  constructor
  · intro h
    -- The rest is walked from another trail and node, whichever the first step leads to.
    induction steps generalizing trail node with
    | nil =>
      cases h
      exact .here trail node
    | cons name rest ih =>
      cases node with
      | file content => cases h
      | directory entries =>
        -- In a directory the name is checked as `walk` does: `.`, then `..`, then its length.
        simp only [walk] at h
        split at h
        case isTrue hdot =>
          subst hdot
          exact .stay (ih h)
        split at h
        case isTrue hup =>
          subst hup
          -- At the root, `..` stays there.
          cases trail with
          | nil => exact .top (ih h)
          | cons last trail => exact .up (ih h)
        rename_i hdot hup
        split at h
        case isTrue hlong => cases h
        rename_i hshort
        cases hchild : entries.lookup name with
        | some child =>
          rw [hchild] at h
          exact .down hdot hup (by omega) hchild (ih h)
        | none =>
          rw [hchild] at h
          -- A name that is not there can only be the last one: the spot is free.
          cases rest with
          | nil =>
            cases h
            exact .free hdot hup (by omega) hchild
          | cons next rest => cases h
  · intro h
    -- Every constructor is one branch of `walk`, with the conditions that select it.
    induction h with
    | here trail node => rfl
    | stay _ ih => exact ih
    | top _ ih => exact ih
    | up _ ih => exact ih
    | down hdot hup hshort hchild _ ih =>
      simp only [walk, if_neg hdot, if_neg hup, if_neg (Nat.not_lt.2 hshort), hchild]
      exact ih
    | free hdot hup hshort hchild =>
      simp [walk, if_neg hdot, if_neg hup, if_neg (Nat.not_lt.2 hshort), hchild]

/-- A path leads to what is at its place. -/
theorem Leads.isAt {steps : List String} {spot : Spot} (h : Leads trail node steps spot)
    (hroot : Reaches root trail node) : IsAt root spot := by
  induction h with
  | here trail node => exact hroot
  | stay _ ih => exact ih hroot
  | top _ ih => exact ih hroot
  | up _ ih => exact ih hroot.up
  | down _ _ _ hchild _ ih => exact ih (hroot.down hchild)
  | @free _ _ name _ _ _ hchild =>
    exact ⟨⟨hroot.get?_eq, hroot.isTrail⟩, (hroot.get?_cons name).trans hchild⟩

/-- Two paths one after the other. -/
theorem Leads.append {a b : List String} {trail' : Trail} {node' : FileNode} {spot : Spot}
    (ha : Leads trail node a (.taken trail' node')) (hb : Leads trail' node' b spot) :
    Leads trail node (a ++ b) spot := by
  induction a generalizing trail node with
  | nil =>
    cases ha
    exact hb
  | cons name rest ih =>
    cases ha with
    | stay h => exact .stay (ih h)
    | top h => exact .top (ih h)
    | up h => exact .up (ih h)
    | down hdot hup hshort hchild h => exact .down hdot hup hshort hchild (ih h)

/-- A path that goes on has led to a directory so far. -/
theorem Leads.of_append {a b : List String} {spot : Spot} (h : Leads trail node (a ++ b) spot)
    (hb : b ≠ []) : ∃ trail' entries, Leads trail node a (.taken trail' (.directory entries)) ∧
      Leads trail' (.directory entries) b spot := by
  induction a generalizing trail node with
  | nil =>
    obtain ⟨name, rest, rfl⟩ := List.exists_cons_of_ne_nil hb
    -- Any further step leaves from a directory.
    obtain ⟨entries, rfl⟩ : ∃ entries, node = .directory entries := by
      cases h <;> exact ⟨_, rfl⟩
    exact ⟨trail, entries, .here trail _, h⟩
  | cons name rest ih =>
    rw [List.cons_append] at h
    generalize hmore : rest ++ b = more at h
    cases h with
    | stay h =>
      obtain ⟨trail', entries, ha, hb⟩ := ih (hmore ▸ h)
      exact ⟨trail', entries, .stay ha, hb⟩
    | top h =>
      obtain ⟨trail', entries, ha, hb⟩ := ih (hmore ▸ h)
      exact ⟨trail', entries, .top ha, hb⟩
    | up h =>
      obtain ⟨trail', entries, ha, hb⟩ := ih (hmore ▸ h)
      exact ⟨trail', entries, .up ha, hb⟩
    | down hdot hup hshort hchild h =>
      obtain ⟨trail', entries, ha, hb⟩ := ih (hmore ▸ h)
      exact ⟨trail', entries, .down hdot hup hshort hchild ha, hb⟩
    -- A free spot ends a path, but this one goes on.
    | free => exact absurd (List.append_eq_nil_iff.1 hmore).2 hb

/-! ### Plain paths -/

/-- The names among steps that never go back up. -/
def literal (steps : List String) : List String :=
  steps.filter (· != ".")

theorem literal_append (a b : List String) : literal (a ++ b) = literal a ++ literal b :=
  List.filter_append ..

theorem literal_literal (steps : List String) : literal (literal steps) = literal steps := by
  simp [literal]

/-- Steps that never go back up lead along their names. -/
theorem Leads.names_eq {steps : List String} {spot : Spot} (h : Leads trail node steps spot)
    (hup : ".." ∉ steps) : spot.names = Trail.names trail ++ literal steps := by
  induction h with
  | here trail node => exact (List.append_nil _).symm
  | stay _ ih => exact ih (List.not_mem_of_not_mem_cons hup)
  -- These are the steps that go back up.
  | top | up => exact absurd List.mem_cons_self hup
  | down hdot _ _ _ _ ih =>
    rw [ih (List.not_mem_of_not_mem_cons hup), Trail.names_cons, literal, literal]
    simp [hdot]
  | free hdot =>
    rw [Spot.names, Trail.names_cons, literal]
    simp [hdot]

/-- Every step has a name that is short enough. -/
theorem Leads.le_nameLimit {steps : List String} {spot : Spot} (h : Leads trail node steps spot)
    {name : String} (hname : name ∈ steps) : name.utf8ByteSize ≤ nameLimit := by
  induction h with
  | here => cases hname
  | stay _ ih | top _ ih | up _ ih =>
    -- The names `.` and `..` are short.
    rcases List.mem_cons.1 hname with rfl | hname
    · decide
    · exact ih hname
  | down _ _ hshort _ _ ih =>
    rcases List.mem_cons.1 hname with rfl | hname
    · exact hshort
    · exact ih hname
  | free _ _ hshort =>
    rw [List.mem_singleton.1 hname]
    exact hshort

/-- Along names that are there, a path leads to a directory if one is there. -/
theorem exists_leads {steps : List String} (hup : ".." ∉ steps)
    (hshort : ∀ name ∈ steps, name.utf8ByteSize ≤ nameLimit) (h : Reaches root trail node)
    (hdirectory : root.at? (Trail.names trail ++ literal steps) = some none) :
    ∃ trail' entries, Leads trail node steps (.taken trail' (.directory entries)) := by
  obtain ⟨entries, rfl⟩ := h.exists_entries (at?_of_append hdirectory)
  induction steps generalizing trail entries with
  | nil => exact ⟨trail, entries, .here trail _⟩
  | cons name rest ih =>
    rw [List.forall_mem_cons] at hshort
    have hrest := List.not_mem_of_not_mem_cons hup
    -- A step `.` stays where it is; any other one finds a directory on the way to the last.
    by_cases hdot : name = "."
    · subst hdot
      obtain ⟨trail', entries', hleads⟩ := ih hrest hshort.2 hdirectory entries h
      exact ⟨trail', entries', .stay hleads⟩
    · have hliteral : literal (name :: rest) = [name] ++ literal rest := by
        simp [literal, hdot]
      rw [hliteral, ← List.append_assoc] at hdirectory
      obtain ⟨child, hchild⟩ := h.exists_child (at?_of_append hdirectory)
      rw [← Trail.names_cons name entries] at hdirectory
      obtain ⟨below, rfl⟩ := (h.down hchild).exists_entries (at?_of_append hdirectory)
      obtain ⟨trail', entries', hleads⟩ := ih hrest hshort.2 hdirectory below (h.down hchild)
      exact ⟨trail', entries', .down hdot (fun hname => hup (hname ▸ List.mem_cons_self)) hshort.1
        hchild hleads⟩

/-- And on from there to what is in that directory. -/
theorem exists_leads_concat {steps : List String} {name : String} {held : Option Bytes}
    (hup : ".." ∉ steps) (hname : name ≠ "." ∧ name ≠ "..")
    (hshort : ∀ step ∈ steps ++ [name], step.utf8ByteSize ≤ nameLimit)
    (hheld : root.at? (literal steps ++ [name]) = some held) :
    ∃ trail node, Leads [] root (steps ++ [name]) (.taken trail node) := by
  rw [List.forall_mem_append, List.forall_mem_singleton] at hshort
  -- Since something is below it, there is a directory at the end of the steps.
  have hdirectory : root.at? (literal steps) = some none :=
    at?_of_append_ne_nil hheld (List.cons_ne_nil name [])
  obtain ⟨trail, entries, hleads⟩ := exists_leads hup hshort.1 (reaches_nil root) hdirectory
  have hreaches : Reaches root trail (.directory entries) := hleads.isAt (reaches_nil root)
  have hnames : Trail.names trail = literal steps := hleads.names_eq hup
  rw [← hnames] at hheld
  obtain ⟨child, hchild⟩ := hreaches.exists_child hheld
  have hlast : Leads trail (.directory entries) [name] (.taken ((name, entries) :: trail) child) :=
    .down hname.1 hname.2 hshort.2 hchild (.here _ child)
  exact ⟨_, child, hleads.append hlast⟩

/-! ### Changes -/

/-- Where a trail ends, a change puts a node. -/
theorem at?_graft (htrail : IsTrail root trail) (new : FileNode) (names : List String) :
    (new.graft trail).at? (Trail.names trail ++ names) = new.at? names := by
  induction trail generalizing new names with
  | nil => rfl
  | cons last trail ih =>
    obtain ⟨name, entries⟩ := last
    rw [Trail.names_cons, List.append_assoc]
    -- The directory above is put in its place anew, and holds the node under the last name.
    refine (ih htrail.2 _ _).trans ?_
    rw [at?, List.singleton_append, get?_cons]
    simp [child?, at?]

theorem lookup_filter_ne {name other : String} (h : other ≠ name)
    (entries : List (String × FileNode)) :
    (entries.filter (·.1 != name)).lookup other = entries.lookup other := by
  induction entries with
  | nil => rfl
  | cons entry rest ih =>
    obtain ⟨key, node⟩ := entry
    by_cases hkey : key = name
    · subst hkey
      have hother : (other == key) = false := beq_eq_false_iff_ne.2 h
      simp [List.lookup_cons, hother, ih]
    · simp [hkey, List.lookup_cons, ih]

/-- Everywhere else it leaves things as they are. -/
theorem at?_graft_elsewhere (htrail : IsTrail root trail) (new : FileNode)
    {names : List String} (h : ¬ Trail.names trail <+: names) :
    (new.graft trail).at? names = root.at? names := by
  induction trail generalizing new with
  | nil => exact absurd List.nil_prefix h
  | cons last trail ih =>
    obtain ⟨name, entries⟩ := last
    rw [Trail.names_cons] at h
    -- Directories on the way are built anew with one entry changed, so other entries stay.
    by_cases habove : Trail.names trail <+: names
    · obtain ⟨below, rfl⟩ := habove
      refine (at?_graft htrail.2 _ below).trans ?_
      rw [at?, at?, get?_append, htrail.1]
      cases below with
      | nil => rfl
      | cons first below =>
        have hne : first ≠ name := by
          rintro rfl
          apply h
          rw [List.prefix_append_right_inj]
          exact ⟨below, rfl⟩
        have hfirst : (first == name) = false := beq_eq_false_iff_ne.2 hne
        show _ = ((directory entries).get? (first :: below)).map content?
        rw [get?_cons, get?_cons]
        simp only [child?, List.lookup_cons, hfirst, lookup_filter_ne hne]
    · exact ih htrail.2 _ habove

/-! ### Another tree -/

variable {a b : FileNode} {ta tb : Trail} {na nb : FileNode}

theorem Reaches.exists_entries_of_directories {entries : List (String × FileNode)}
    (hb : Reaches b tb nb) (ha : Reaches a ta (.directory entries))
    (hnames : Trail.names tb = Trail.names ta)
    (hdirectories : ∀ names, a.at? names = some none → b.at? names = some none) :
    ∃ entries, nb = .directory entries := by
  apply hb.exists_entries
  rw [hnames]
  exact hdirectories _ ha.at?_eq

/-- **Transfer.** A path that leads somewhere in one tree leads to the same place in another tree,
    if that has all directories of the first one, and something at that place. -/
theorem Leads.transfer {steps : List String} {spot : Spot} (h : Leads ta na steps spot)
    (ha : Reaches a ta na) (hb : Reaches b tb nb) (hnames : Trail.names tb = Trail.names ta)
    (hdirectories : ∀ names, a.at? names = some none → b.at? names = some none)
    {held : Option Bytes} (hheld : b.at? spot.names = some held) :
    ∃ trail node, Leads tb nb steps (.taken trail node) ∧ Trail.names trail = spot.names := by
  -- The trails differ in what their directories hold, but not in their names.
  induction h generalizing tb nb with
  | here trail node => exact ⟨tb, nb, .here tb nb, hnames⟩
  | stay _ ih =>
    obtain ⟨entries, rfl⟩ := hb.exists_entries_of_directories ha hnames hdirectories
    obtain ⟨trail, node, hleads, hplace⟩ := ih ha hb hnames hheld
    exact ⟨trail, node, .stay hleads, hplace⟩
  | top _ ih =>
    obtain ⟨entries, rfl⟩ := hb.exists_entries_of_directories ha hnames hdirectories
    -- The same names: the other trail is at the root as well.
    obtain rfl : tb = [] := by simpa [Trail.names] using hnames
    obtain ⟨trail, node, hleads, hplace⟩ := ih ha hb hnames hheld
    exact ⟨trail, node, .top hleads, hplace⟩
  | up _ ih =>
    obtain ⟨entries, rfl⟩ := hb.exists_entries_of_directories ha hnames hdirectories
    cases tb with
    | nil => simp at hnames
    | cons last tb =>
      obtain ⟨name', above'⟩ := last
      rw [Trail.names_cons, Trail.names_cons] at hnames
      obtain ⟨trail, node, hleads, hplace⟩ :=
        ih ha.up hb.up (List.append_inj' hnames rfl).1 hheld
      exact ⟨trail, node, .up hleads, hplace⟩
  | @down trail entries name child rest spot hdot hup hshort hchild hrest ih =>
    obtain ⟨entries', rfl⟩ := hb.exists_entries_of_directories ha hnames hdirectories
    -- Below a name there is a directory, which the other tree has, or the file that ends the path.
    have hbelow : ∃ held, b.at? (Trail.names tb ++ [name]) = some held := by
      rw [hnames, ← Trail.names_cons name entries]
      cases child with
      | directory below => exact ⟨none, hdirectories _ (ha.down hchild).at?_eq⟩
      | file content =>
        cases hrest
        exact ⟨held, hheld⟩
    obtain ⟨_, hbelow⟩ := hbelow
    obtain ⟨child', hchild'⟩ := hb.exists_child hbelow
    obtain ⟨trail', node, hleads, hplace⟩ := ih (ha.down hchild) (hb.down hchild')
      (by rw [Trail.names_cons, Trail.names_cons, hnames]) hheld
    exact ⟨trail', node, .down hdot hup hshort hchild' hleads, hplace⟩
  | @free trail entries name hdot hup hshort hchild =>
    obtain ⟨entries', rfl⟩ := hb.exists_entries_of_directories ha hnames hdirectories
    rw [Spot.names, Trail.names_cons, ← hnames] at hheld
    obtain ⟨child', hchild'⟩ := hb.exists_child hheld
    refine ⟨(name, entries') :: tb, child', .down hdot hup hshort hchild' (.here _ _), ?_⟩
    rw [Spot.names, Trail.names_cons, Trail.names_cons, hnames]

end FileNode

end WifiNames
