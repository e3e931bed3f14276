import Stencil.Files.Tree

/-!
# Writing a file

A write changes the entry at one place: that to which its path leads, links followed, and where the
last name of the path can be missing. The new file is found there again, whatever else the tree
holds: a path enters a place only if there is a directory, and a link that it passes on its way is
not at its end.

## Main definitions

* `FileTree.Leads tree create links current parts place`: the steps of a path, one by one
* `FileTree.Saved tree after path content place`: `after` is `tree` with a file at `place`, to which
  `path` leads
* `FileTree.target? tree path`: the place to which a path leads, if its last name may be missing

## Main results

* `FileTree.follow?_eq_some_iff`: a path is followed step by step
* `FileTree.Leads.ne_of_link`: no path leads from elsewhere to a link
* `FileTree.Leads.insert`: what is made at the end of a path is found there
* `FileTree.exists_saved_of_write`: a write changes one file
-/

namespace Stencil.FileTree

variable {tree after : FileTree} {create : Bool} {links : Nat} {current place other : Place}
  {parts : List PathPart} {path target content : Text} {entry : FileEntry}

/-! ## Entries -/

theorem isDirectoryAt_iff : tree.isDirectoryAt place = true ↔ tree.entry? place = some .directory :=
  beq_iff_eq

/-- The root is a directory. -/
theorem ne_nil_of_vacant (h : tree.isDirectoryAt place = false) : place ≠ [] := by
  rintro rfl
  cases h

theorem entry?_insert_self (h : place ≠ []) :
    entry? (tree.insert place entry) place = some entry := by
  unfold entry?
  rw [if_neg h]
  simp [insert]

theorem entry?_insert_of_ne (h : other ≠ place) :
    entry? (tree.insert place entry) other = tree.entry? other := by
  have passed : (place == other) = false := beq_false_of_ne h.symm
  have kept (key : Place) : (key != place && key == other) = (key == other) := by
    rw [Bool.and_eq_right_iff_imp, beq_iff_eq]
    rintro rfl
    exact bne_iff_ne.mpr h
  unfold entry?
  simp only [insert, List.find?_cons, passed, List.find?_filter, Bool.decide_and,
    Bool.decide_eq_true, kept]

/-- An entry that is made where there was no directory leaves all directories. -/
theorem isDirectoryAt_insert (vacant : tree.isDirectoryAt place = false)
    (h : tree.isDirectoryAt other = true) : (tree.insert place entry).isDirectoryAt other = true := by
  rw [isDirectoryAt_iff, entry?_insert_of_ne, isDirectoryAt_iff.mp h]
  rintro rfl
  rw [h] at vacant
  cases vacant

/-! ## Steps of a path -/

/-- The steps of a path from the place `current` to `place`. -/
inductive Leads (tree : FileTree) (create : Bool) :
    (links : Nat) → (current : Place) → List PathPart → (place : Place) → Prop
  | stop {links : Nat} {place : Place} : Leads tree create links place [] place
  | here {links : Nat} {current place : Place} {rest : List PathPart}
      (directory : tree.isDirectoryAt current = true)
      (behind : Leads tree create links current rest place) :
      Leads tree create links current (.here :: rest) place
  | up {links : Nat} {current place : Place} {rest : List PathPart}
      (directory : tree.isDirectoryAt current = true)
      (behind : Leads tree create links current.dropLast rest place) :
      Leads tree create links current (.up :: rest) place
  /-- A name without an entry ends a path that may make one. -/
  | make {links : Nat} {current : Place} {name : Text}
      (directory : tree.isDirectoryAt current = true)
      (missing : tree.entry? (current ++ [name]) = none) (can : create = true) :
      Leads tree create links current [.named name] (current ++ [name])
  /-- A link is replaced by its target. -/
  | link {links : Nat} {current place : Place} {name target : Text} {rest : List PathPart}
      (directory : tree.isDirectoryAt current = true)
      (found : tree.entry? (current ++ [name]) = some (.link target))
      (behind : Leads tree create links (if FilePath.isAbsolute target then [] else current)
        (FilePath.parts target ++ rest) place) :
      Leads tree create (links + 1) current (.named name :: rest) place
  | enter {links : Nat} {current place : Place} {name : Text} {entry : FileEntry}
      {rest : List PathPart} (directory : tree.isDirectoryAt current = true)
      (found : tree.entry? (current ++ [name]) = some entry)
      (noLink : ∀ target, entry ≠ .link target)
      (behind : Leads tree create links (current ++ [name]) rest place) :
      Leads tree create links current (.named name :: rest) place

theorem leads_of_follow? (h : tree.follow? create links current parts = some place) :
    tree.Leads create links current parts place := by
  fun_induction follow? tree create links current parts with
  | case1 =>
    obtain rfl := Option.some.inj h
    exact .stop
  | case2 => cases h
  | case3 links current rest directory ih => exact .here (by simpa using directory) (ih h)
  | case4 links current rest directory ih => exact .up (by simpa using directory) (ih h)
  | case5 links current rest directory name missing last =>
    obtain ⟨can, ends⟩ := Bool.and_eq_true_iff.mp last
    obtain rfl := eq_of_beq ends
    obtain rfl := Option.some.inj h
    exact .make (by simpa using directory) missing can
  | case6 => cases h
  | case7 => cases h
  | case8 current rest directory name target found links ih =>
    exact .link (by simpa using directory) found (ih h)
  | case9 links current rest directory name entry noLink found ih =>
    exact .enter (by simpa using directory) found noLink (ih h)

/-- **A path is followed** step by step. -/
theorem follow?_eq_some_iff :
    tree.follow? create links current parts = some place ↔
      tree.Leads create links current parts place := by
  refine ⟨leads_of_follow?, fun h => ?_⟩
  induction h with
  | stop => rw [follow?]
  | here directory _ ih => rwa [follow?, directory]
  | up directory _ ih => rwa [follow?, directory]
  | make directory missing can =>
    rw [follow?, if_neg (by simp [directory])]
    split
    · rw [can]
      rfl
    · next found => simp [missing] at found
    · next found => simp [missing] at found
  | link directory found _ ih =>
    rw [follow?, if_neg (by simp [directory])]
    split
    · next missing => simp [found] at missing
    · next same =>
      cases found.symm.trans same
      exact ih
    · next noLink same => exact absurd (Option.some.inj (same.symm.trans found)) (noLink _)
  | enter directory found noLink _ ih =>
    rw [follow?, if_neg (by simp [directory])]
    split
    · next missing => simp [found] at missing
    · next same => exact absurd (Option.some.inj (found.symm.trans same)) (noLink _)
    · exact ih

/-! ## Ends of a path -/

namespace Leads

/-- A path that leads to a place leads there where it may make an entry. -/
theorem creating (h : tree.Leads create links current parts place) :
    tree.Leads true links current parts place := by
  induction h with
  | stop => exact .stop
  | here directory _ ih => exact .here directory ih
  | up directory _ ih => exact .up directory ih
  | make directory missing => exact .make directory missing rfl
  | link directory found _ ih => exact .link directory found ih
  | enter directory found noLink _ ih => exact .enter directory found noLink ih

/-- **No path leads to a link** from a place that is not behind it. -/
theorem ne_of_link (h : tree.Leads create links current parts place)
    (link : tree.entry? other = some (.link target)) (outside : ¬ other <+: current) :
    place ≠ other := by
  induction h with
  | stop =>
    rintro rfl
    exact outside (List.prefix_refl _)
  | here _ _ ih => exact ih outside
  | up _ _ ih => exact ih fun inside => outside (inside.trans (List.dropLast_prefix _))
  | make _ missing =>
    rintro rfl
    rw [missing] at link
    cases link
  | link _ _ _ ih =>
    apply ih
    split
    · intro inside
      rw [List.prefix_nil.mp inside] at link
      cases link
    · exact outside
  | enter _ found noLink _ ih =>
    apply ih
    intro inside
    rcases List.prefix_concat_iff.mp inside with rfl | inside
    · rw [found] at link
      exact noLink target (Option.some.inj link)
    · exact outside inside

/-- **What is made at the end of a path** is found there. -/
theorem insert (h : tree.Leads create links current parts place)
    (vacant : tree.isDirectoryAt place = false) (file : ∀ target, entry ≠ .link target) :
    (tree.insert place entry).Leads false links current parts place := by
  have made : entry? (tree.insert place entry) place = some entry :=
    entry?_insert_self (ne_nil_of_vacant vacant)
  induction h with
  | stop => exact .stop
  | here directory _ ih => exact .here (isDirectoryAt_insert vacant directory) (ih vacant made)
  | up directory _ ih => exact .up (isDirectoryAt_insert vacant directory) (ih vacant made)
  | make directory => exact .enter (isDirectoryAt_insert vacant directory) made file .stop
  | @link links current place name target rest directory found behind ih =>
    refine .link (isDirectoryAt_insert vacant directory) ?_ (ih vacant made)
    rw [entry?_insert_of_ne, found]
    -- the path does not come back to a link that it has passed
    refine (behind.ne_of_link found fun inside => ?_).symm
    have shorter := inside.length_le
    rw [List.length_append, List.length_singleton] at shorter
    split at shorter
    · exact absurd shorter (Nat.not_succ_le_zero _)
    · exact absurd shorter (Nat.not_succ_le_self _)
  | @enter links current place name old rest directory found kept _ ih =>
    have directory' : (tree.insert place entry).isDirectoryAt current = true :=
      isDirectoryAt_insert vacant directory
    by_cases here : current ++ [name] = place
    · exact .enter directory' (here ▸ made) file (ih vacant made)
    · exact .enter directory' ((entry?_insert_of_ne here).trans found) kept (ih vacant made)

end Leads

/-! ## Written files -/

/-- `after` is `tree` with a file at a place, to which a path leads. -/
structure Saved (tree after : FileTree) (path content : Text) (place : Place) : Prop where
  /-- The path leads to the place, links followed. -/
  leads : after.resolve? path = some place
  /-- It led nowhere else before. -/
  led : ∀ old, tree.resolve? path = some old → old = place
  /-- There was no directory. -/
  vacant : tree.isDirectoryAt place = false
  /-- The file has the content. -/
  holds : after.entry? place = some (.file (.text content))
  /-- All other entries are as they were. -/
  frame : ∀ other, other ≠ place → after.entry? other = tree.entry? other
  /-- So is the place where relative paths start. -/
  workingDirectory : after.workingDirectory = tree.workingDirectory

/-- The content is read back. -/
theorem Saved.read_eq (h : Saved tree after path content place) :
    after.read path = .ok content := by
  rw [read, h.leads]
  simp only [readAt, h.holds]

/-- The place to which a path leads, links followed. The last name may be missing there. -/
def target? (tree : FileTree) (path : Text) : Option Place :=
  if path = [] then none
  else tree.follow? true maxLinks (tree.startOf path) (FilePath.parts path)

/-- A path that leads to a place has it as its target. -/
theorem target?_of_resolve? (h : tree.resolve? path = some place) :
    tree.target? path = some place := by
  rw [resolve?] at h
  rw [target?]
  by_cases empty : path = []
  · rw [if_pos empty] at h
    cases h
  · rw [if_neg empty] at h ⊢
    exact follow?_eq_some_iff.mpr (leads_of_follow? h).creating

/-- A file that is made at the target of a path is saved there. -/
theorem saved_of_target? (h : tree.target? path = some place)
    (vacant : tree.isDirectoryAt place = false) :
    Saved tree (tree.insert place (.file (.text content))) path content place := by
  have file : ∀ target, FileEntry.file (.text content) ≠ .link target :=
    fun _ => FileEntry.noConfusion
  refine ⟨?_, ?_, vacant, entry?_insert_self (ne_nil_of_vacant vacant),
    fun other => entry?_insert_of_ne, rfl⟩
  · rw [target?] at h
    rw [resolve?]
    by_cases empty : path = []
    · rw [if_pos empty] at h
      cases h
    · rw [if_neg empty] at h ⊢
      exact follow?_eq_some_iff.mpr ((leads_of_follow? h).insert vacant file)
  · intro old led
    exact Option.some.inj ((target?_of_resolve? led).symm.trans h)

/-- **A write** changes one file, that at the target of its path. -/
theorem exists_saved_of_write (h : tree.write path content = .ok after) :
    ∃ place, tree.target? path = some place ∧ Saved tree after path content place := by
  unfold write at h
  extract_lets place? at h
  have place?_eq : place? = tree.target? path := rfl
  rw [place?_eq] at h
  split at h
  · cases h
  · next place target =>
    split at h
    · cases h
    · next vacant =>
      obtain rfl := Except.ok.inj h
      exact ⟨place, target, saved_of_target? target (Bool.eq_false_iff.mpr vacant)⟩

end Stencil.FileTree
