import WifiNames.Files.Tree

namespace WifiNames

/-!
# Paths — a name below a directory

A plain name joined to the path of a directory adds one step to it and changes nothing else about
it, whether or not the path ends with a slash, and even if it is empty.

* `between_append_slash` — what a slash between two texts does to the parts.
* `steps_join`, `isAbsolute_join`, `parts_join` — the joined path.
* `FileTree.pathFault?_of_join` — if nothing is wrong with it, nothing is with the directory's path.
-/

namespace Path

/-- A name that is looked up in a directory. -/
structure IsPlainName (name : String) : Prop where
  ne_nil : name.toList ≠ []
  slash_notMem : '/' ∉ name.toList
  ne_dot : name ≠ "."
  ne_up : name ≠ ".."

theorem between_ne_nil (t : Text) : between t ≠ [] := by
  cases t with
  | nil => simp [between]
  | cons c rest =>
    rw [between]
    cases between rest with
    | nil => simp
    | cons part more =>
      show (if c = '/' then _ else _) ≠ []
      split <;> simp

theorem between_cons_slash (t : Text) : between ('/' :: t) = [] :: between t := by
  rw [between]
  cases h : between t with
  | nil => exact absurd h (between_ne_nil t)
  | cons part more => rfl

/-- The parts before a slash and those after it. -/
theorem between_append_slash (a b : Text) : between (a ++ '/' :: b) = between a ++ between b := by
  induction a with
  | nil => exact between_cons_slash b
  | cons c rest ih =>
    rw [List.cons_append, between, ih, between]
    -- The first character joins the first part or, if it is a slash, ends a new one.
    cases h : between rest with
    | nil => exact absurd h (between_ne_nil rest)
    | cons part more =>
      show (if c = '/' then _ else _) = (if c = '/' then _ else _) ++ _
      split <;> rfl

/-- A text without a slash is one part. -/
theorem between_of_slash_notMem {t : Text} (h : '/' ∉ t) : between t = [t] := by
  induction t with
  | nil => rfl
  | cons c rest ih =>
    obtain ⟨hc, hrest⟩ := not_or.1 (mt List.mem_cons.2 h)
    rw [between, ih hrest]
    show (if c = '/' then _ else _) = _
    rw [if_neg (Ne.symm hc)]

theorem isAbsolute_of_isPlainName {name : String} (hname : IsPlainName name) :
    isAbsolute name = false := by
  have hhead : name.toList.head? ≠ some '/' :=
    fun hhead => hname.slash_notMem (List.mem_of_head? hhead)
  simpa [isAbsolute] using hhead

/-- Where a slash comes to stand between a directory and a name. -/
theorem join_cases {name : String} (hname : IsPlainName name) (dir : String) :
    dir = "" ∧ join dir name = name ∨
      ∃ base, (base ≠ [] ∧ dir.toList = base ∨ dir.toList = base ++ ['/']) ∧
        (join dir name).toList = base ++ '/' :: name.toList := by
  unfold join
  rw [isAbsolute_of_isPlainName hname, if_neg Bool.false_ne_true]
  by_cases hempty : dir = ""
  · left
    simp [hempty]
  · right
    -- With a slash at the end of the directory, `join` adds no other one.
    by_cases hslash : asksForDirectory dir = true
    · obtain ⟨base, hbase⟩ := List.getLast?_eq_some_iff.1 (beq_iff_eq.1 hslash)
      refine ⟨base, Or.inr hbase, ?_⟩
      simp [hslash, hbase]
    · refine ⟨dir.toList, Or.inl ⟨by simpa using hempty, rfl⟩, ?_⟩
      simp [hempty, hslash]

variable {dir name : String}

/-- The steps to a name below a directory are those to the directory and the name. -/
theorem steps_join (hname : IsPlainName name) : steps (join dir name) = steps dir ++ [name] := by
  have hlast : between name.toList = [name.toList] := between_of_slash_notMem hname.slash_notMem
  unfold steps
  rcases join_cases hname dir with ⟨rfl, h⟩ | ⟨base, hdir, h⟩
  · simp [h, hlast, hname.ne_nil, between]
  · -- A slash at the end adds an empty part only, and empty parts are no steps.
    have hbase : (between dir.toList).filter (!·.isEmpty) = (between base).filter (!·.isEmpty) := by
      rcases hdir with ⟨-, h⟩ | h
      · rw [h]
      · rw [h, between_append_slash, List.filter_append]
        simp [between]
    rw [h, between_append_slash, hlast, List.filter_append, hbase]
    simp [hname.ne_nil]

example : steps (join "/a//b/" "config.yaml") = ["a", "b", "config.yaml"] := by
  decide +kernel

/-- They start where those to the directory do. -/
theorem isAbsolute_join (hname : IsPlainName name) :
    isAbsolute (join dir name) = isAbsolute dir := by
  rcases join_cases hname dir with ⟨rfl, h⟩ | ⟨base, hdir, h⟩
  · rw [h, isAbsolute_of_isPlainName hname]
    rfl
  · unfold isAbsolute
    rw [h]
    -- The joined path begins as the directory does, unless that is the root alone.
    rcases hdir with ⟨hne, h⟩ | h
    · obtain ⟨c, rest, rfl⟩ := List.exists_cons_of_ne_nil hne
      rw [h]
      rfl
    · rw [h]
      cases base <;> rfl

/-- It need not lead to a directory. -/
theorem asksForDirectory_join (hname : IsPlainName name) :
    asksForDirectory (join dir name) = false := by
  have hlast : name.toList.getLast? ≠ some '/' :=
    fun hlast => hname.slash_notMem (List.mem_of_getLast? hlast)
  unfold asksForDirectory
  rcases join_cases hname dir with ⟨-, h⟩ | ⟨base, -, h⟩
  · rw [h]
    simpa using hlast
  · rw [h, List.getLast?_append]
    cases hlist : name.toList with
    | nil => exact absurd hlist hname.ne_nil
    | cons c rest =>
      rw [hlist] at hlast
      simpa using hlast

theorem parts_join (hname : IsPlainName name) : parts (join dir name) = steps dir ++ [name] := by
  rw [parts, asksForDirectory_join hname, steps_join hname]
  rfl

/-- It is longer than the path of the directory. -/
theorem exists_join_eq_append (hname : IsPlainName name) (dir : String) :
    ∃ rest, rest ≠ "" ∧ join dir name = dir ++ rest := by
  unfold join
  rw [isAbsolute_of_isPlainName hname, if_neg Bool.false_ne_true]
  split
  · refine ⟨name, ?_, rfl⟩
    rintro rfl
    exact hname.ne_nil rfl
  · refine ⟨"/" ++ name, by simp, ?_⟩
    rw [String.append_assoc]

end Path

namespace FileTree

/-- Nothing is wrong with the path of a directory if nothing is wrong with that of a name below
    it. -/
theorem pathFault?_of_join {dir name : String} (hname : Path.IsPlainName name)
    (h : pathFault? (Path.join dir name) = none) : pathFault? dir = none := by
  obtain ⟨rest, -, hrest⟩ := Path.exists_join_eq_append hname dir
  rw [hrest, pathFault?, String.toList_append, String.utf8ByteSize_append] at h
  rw [pathFault?]
  by_cases hnul : dir.toList.contains '\x00' = true
  · simp_all
  · -- The directory has no more bytes than the path below it, nor a NUL that this has not.
    have hlength : ¬ pathLimit < dir.utf8ByteSize := by
      intro hlong
      have hlong' : pathLimit < dir.utf8ByteSize + rest.utf8ByteSize := by omega
      rw [if_pos hlong'] at h
      split at h <;> cases h
    rw [if_neg hnul, if_neg hlength]

end FileTree

end WifiNames
