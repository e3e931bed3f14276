import Mathlib.Data.List.Find
import Stencil.Proofs.Files.Confined
import Stencil.Proofs.Files.Saved
import Stencil.Settings.Reader

/-!
# Reading after a write

A write makes or replaces one file. What is read elsewhere is read as before: a path that leads to
another place leads there still, and one that leads nowhere does so still, unless its target is the
new file.

## Main definitions

* `FileTree.Grounded tree`: the working directory lies behind no link
* `FileTree.loadTarget? tree root path`: the place from which an import is loaded
* `FileTree.Twins one other place`: the trees are alike, except for a file at `place`

## Main results

* `FileTree.Saved.twins`: the trees before and after a write
* `FileTree.Twins.follow?_eq`: a path whose target is elsewhere leads where it led
* `FileTree.Twins.read_eq`, `FileTree.Twins.settings_eq`, `FileTree.Twins.sourceValues_eq`,
  `FileTree.Twins.dataValues_eq`, `FileTree.Twins.load_eq`: what is read elsewhere
-/

namespace Stencil.FileTree

variable {tree after one other : FileTree} {create : Bool} {links : Nat}
  {current place last elsewhere : Place} {parts : List PathPart} {path content root : Text}

/-! ## Files at the end of paths -/

/-- Neither a directory nor a link stands at the place, so no path goes on behind it. -/
structure IsEnd (tree : FileTree) (place : Place) : Prop where
  vacant : tree.isDirectoryAt place = false
  noLink : ∀ target, tree.entry? place ≠ some (.link target)

theorem isEnd_of_file {content : FileContent} (h : tree.entry? place = some (.file content)) :
    tree.IsEnd place where
  vacant := by
    rw [Bool.eq_false_iff, Ne, isDirectoryAt_iff, h]
    exact fun same => nomatch same
  noLink target := by
    rw [h]
    exact fun same => nomatch same

/-- No link stands on the way from the root to the working directory. -/
def Grounded (tree : FileTree) : Prop :=
  ∀ place target, tree.entry? place = some (.link target) → ¬ place <+: tree.workingDirectory

theorem grounded_of_isDirectoryAt
    (h : ∀ place ∈ tree.workingDirectory.inits, tree.isDirectoryAt place = true) :
    tree.Grounded := by
  intro place target found inside
  have directory := isDirectoryAt_iff.mp (h place ((List.mem_inits ..).mpr inside))
  rw [found] at directory
  cases directory

/-- The place from which an import is loaded, if only the last name may be missing. -/
def loadTarget? (tree : FileTree) (root path : Text) : Option Place :=
  (tree.resolve? root).bind fun base =>
    tree.follow? true maxLinks (if FilePath.isAbsolute path then [] else base) (FilePath.parts path)

/-- The target of a path is no link. -/
theorem Grounded.ne_link (grounded : tree.Grounded) (h : tree.target? path = some place)
    (target : Text) : tree.entry? place ≠ some (.link target) := by
  intro link
  rw [target?] at h
  by_cases empty : path = []
  · rw [if_pos empty] at h
    cases h
  · rw [if_neg empty] at h
    refine (leads_of_follow? h).ne_of_link link ?_ rfl
    rw [startOf]
    split
    · intro inside
      rw [List.prefix_nil.mp inside] at link
      cases link
    · exact grounded place target link

/-- A path that has come to a place without a directory has come to its end. -/
theorem Leads.eq_of_vacant (h : tree.Leads create links current parts last)
    (vacant : tree.isDirectoryAt current = false) : last = current := by
  cases h with
  | stop => rfl
  | here directory | up directory | make directory | link directory | enter directory =>
    rw [vacant] at directory
    cases directory

/-- No import is loaded from a directory of templates that is none. -/
theorem load_of_vacant (ordinary : FilePath.IsOrdinary path)
    (vacant : ∀ base, tree.resolve? root = some base → tree.isDirectoryAt base = false) :
    tree.load root path = .error (.importNotFound path root) := by
  rw [load]
  split
  · rfl
  · next base found =>
    -- a path of names leaves the place from which it starts
    have nowhere : tree.follow? false maxLinks base (FilePath.parts path) = none := by
      have filled : FilePath.parts path ≠ [] :=
        fun empty => Text.split_ne_nil _ _ (List.map_eq_nil_iff.mp empty)
      obtain ⟨part, rest, parts_eq⟩ := List.exists_cons_of_ne_nil filled
      rw [Option.eq_none_iff_forall_ne_some, parts_eq]
      intro last led
      cases leads_of_follow? led with
      | here directory | up directory | make directory | link directory | enter directory =>
        rw [vacant base found] at directory
        cases directory
    simp only [ordinary.relative, Bool.false_eq_true, if_false, nowhere]

/-! ## Trees that differ in a file -/

/-- The trees are alike, except that each may have a file at the place. -/
structure Twins (one other : FileTree) (place : Place) : Prop where
  entry?_eq : ∀ elsewhere, elsewhere ≠ place → one.entry? elsewhere = other.entry? elsewhere
  workingDirectory_eq : one.workingDirectory = other.workingDirectory
  isEnd : one.IsEnd place
  isEnd' : other.IsEnd place

/-- **The trees before and after a write** differ in the file that was written. -/
theorem Saved.twins (saved : Saved tree after path content place)
    (noLink : ∀ target, tree.entry? place ≠ some (.link target)) : Twins after tree place where
  entry?_eq := saved.frame
  workingDirectory_eq := saved.workingDirectory
  isEnd := isEnd_of_file saved.holds
  isEnd' := ⟨saved.vacant, noLink⟩

namespace Twins

theorem symm (twins : Twins one other place) : Twins other one place where
  entry?_eq elsewhere ne := (twins.entry?_eq elsewhere ne).symm
  workingDirectory_eq := twins.workingDirectory_eq.symm
  isEnd := twins.isEnd'
  isEnd' := twins.isEnd

variable (twins : Twins one other place)
include twins

theorem isDirectoryAt (h : one.isDirectoryAt current = true) :
    other.isDirectoryAt current = true := by
  rw [isDirectoryAt_iff] at h ⊢
  rw [← twins.entry?_eq, h]
  rintro rfl
  have vacant := twins.isEnd.vacant
  rw [isDirectoryAt_iff.mpr h] at vacant
  cases vacant

/-- A path that leads elsewhere leads there in the other tree. -/
theorem leads (h : one.Leads false links current parts last) (ne : last ≠ place) :
    other.Leads false links current parts last := by
  induction h with
  | stop => exact .stop
  | here directory _ ih => exact .here (twins.isDirectoryAt directory) (ih ne)
  | up directory _ ih => exact .up (twins.isDirectoryAt directory) (ih ne)
  | make _ _ can => cases can
  | @link links current last name target rest directory found _ ih =>
    refine .link (twins.isDirectoryAt directory) ?_ (ih ne)
    rw [← twins.entry?_eq, found]
    intro here
    exact twins.isEnd.noLink target (here ▸ found)
  | @enter links current last name entry rest directory found noLink behind ih =>
    have passed : current ++ [name] ≠ place := by
      intro here
      exact ne ((behind.eq_of_vacant (here ▸ twins.isEnd.vacant)).trans here)
    refine .enter (twins.isDirectoryAt directory) ?_ noLink (ih ne)
    rw [← twins.entry?_eq _ passed, found]

/-- A path that leads to the file has it as its target in the other tree, where it may be
missing. -/
theorem leads_place (h : one.Leads false links current parts last) (here : last = place) :
    other.Leads true links current parts last := by
  induction h with
  | stop => exact .stop
  | here directory _ ih => exact .here (twins.isDirectoryAt directory) (ih here)
  | up directory _ ih => exact .up (twins.isDirectoryAt directory) (ih here)
  | make _ _ can => cases can
  | @link links current last name target rest directory found _ ih =>
    refine .link (twins.isDirectoryAt directory) ?_ (ih here)
    rw [← twins.entry?_eq, found]
    intro same
    exact twins.isEnd.noLink target (same ▸ found)
  | @enter links current last name entry rest directory found noLink behind ih =>
    have directory' := twins.isDirectoryAt directory
    by_cases same : current ++ [name] = place
    · -- the path ends at the file, whether the other tree has one or not
      cases behind with
      | stop =>
        cases missing : other.entry? (current ++ [name]) with
        | none => exact .make directory' missing rfl
        | some old =>
          refine .enter directory' missing ?_ .stop
          rintro target rfl
          exact twins.isEnd'.noLink target (same ▸ missing)
      | here directory | up directory | link directory | enter directory =>
        rw [same, twins.isEnd.vacant] at directory
        cases directory
      | make _ _ can => cases can
    · exact .enter directory' ((twins.entry?_eq _ same).symm.trans found) noLink (ih here)

/-- **A path whose target is elsewhere** leads where it led. -/
theorem follow?_eq (away : other.follow? true links current parts ≠ some place) :
    one.follow? false links current parts = other.follow? false links current parts := by
  ext last
  constructor
  · intro h
    have led := leads_of_follow? h
    have ne : last ≠ place := by
      rintro rfl
      exact away (follow?_eq_some_iff.mpr (twins.leads_place led rfl))
    exact follow?_eq_some_iff.mpr (twins.leads led ne)
  · intro h
    have led := leads_of_follow? h
    have ne : last ≠ place := by
      rintro rfl
      exact away (follow?_eq_some_iff.mpr led.creating)
    exact follow?_eq_some_iff.mpr (twins.symm.leads led ne)

theorem startOf_eq (path : Text) : one.startOf path = other.startOf path := by
  rw [startOf, startOf, twins.workingDirectory_eq]

/-- A path that leads elsewhere leads there in the other tree. -/
theorem resolve?_of_ne (h : one.resolve? path = some last) (ne : last ≠ place) :
    other.resolve? path = some last := by
  rw [resolve?] at h ⊢
  by_cases empty : path = []
  · rw [if_pos empty] at h
    cases h
  · rw [if_neg empty] at h ⊢
    rw [twins.startOf_eq] at h
    exact follow?_eq_some_iff.mpr (twins.leads (leads_of_follow? h) ne)

theorem resolve?_eq (away : other.target? path ≠ some place) :
    one.resolve? path = other.resolve? path := by
  rw [target?] at away
  rw [resolve?, resolve?]
  by_cases empty : path = []
  · rw [if_pos empty, if_pos empty]
  · rw [if_neg empty] at away ⊢
    rw [if_neg empty, twins.startOf_eq]
    exact twins.follow?_eq away

/-! ## What is read elsewhere -/

theorem readAt_eq (ne : elsewhere ≠ place) : one.readAt elsewhere = other.readAt elsewhere := by
  rw [readAt, readAt, twins.entry?_eq elsewhere ne]

/-- **A file elsewhere** is read alike. -/
theorem read_eq (away : other.target? path ≠ some place) : one.read path = other.read path := by
  rw [read, read, twins.resolve?_eq away]
  cases found : other.resolve? path with
  | none => rfl
  | some elsewhere =>
    refine twins.readAt_eq ?_
    rintro rfl
    exact away (target?_of_resolve? found)

theorem isFile_eq (away : other.target? path ≠ some place) : one.isFile path = other.isFile path := by
  rw [isFile, isFile, twins.resolve?_eq away]
  cases found : other.resolve? path with
  | none => rfl
  | some elsewhere =>
    have ne : elsewhere ≠ place := by
      rintro rfl
      exact away (target?_of_resolve? found)
    rw [Option.bind_some, Option.bind_some, twins.entry?_eq elsewhere ne]

theorem settingsPath?_eq {project : Text}
    (away : ∀ path ∈ Settings.candidates,
      other.target? (FilePath.joined project path) ≠ some place) :
    one.settingsPath? project = other.settingsPath? project := by
  rw [settingsPath?, settingsPath?]
  refine List.find?_congr fun path mem => ?_
  obtain ⟨candidate, known, rfl⟩ := List.mem_map.mp mem
  exact twins.isFile_eq (away candidate known)

/-- **The settings** are found alike if no place where they may lie has the file as its target. -/
theorem settings_eq {project : Text}
    (away : ∀ path ∈ Settings.candidates,
      other.target? (FilePath.joined project path) ≠ some place) :
    one.settings project = other.settings project := by
  rw [settings, settings, twins.settingsPath?_eq away]
  cases found : other.settingsPath? project with
  | none => rfl
  | some path =>
    rw [settingsPath?] at found
    obtain ⟨candidate, mem, rfl⟩ := List.mem_map.mp (List.mem_of_find?_eq_some found)
    simp only [twins.read_eq (away candidate mem)]

theorem dataValue_eq (away : other.target? path ≠ some place) (format : DataFormat) :
    one.dataValue path format = other.dataValue path format := by
  rw [dataValue, dataValue, twins.read_eq away]

theorem dataValues_eq (away : other.target? path ≠ some place) :
    one.dataValues path = other.dataValues path := by
  simp only [dataValues, twins.dataValue_eq away]

theorem sourceValues_eq {project : Text} {sources : List (Text × DataSource)}
    (away : ∀ source ∈ sources,
      other.target? (FilePath.joined project source.2.path) ≠ some place) :
    one.sourceValues project sources = other.sourceValues project sources := by
  induction sources with
  | nil => rfl
  | cons first rest ih =>
    obtain ⟨here, away⟩ := List.forall_mem_cons.mp away
    simp only [sourceValues, twins.dataValue_eq here, ih away]

/-! ## Imports -/

/-- **An import** is loaded alike, unless the file is where it is loaded from. -/
theorem load_eq (ordinary : FilePath.IsOrdinary path)
    (away : other.loadTarget? root path ≠ some place) :
    one.load root path = other.load root path := by
  by_cases based : ∃ base, other.resolve? root = some base ∧ base ≠ place
  · obtain ⟨base, found, ne⟩ := based
    have found' := twins.symm.resolve?_of_ne found ne
    simp only [loadTarget?, found, Option.bind_some] at away
    simp only [load, found, found', twins.follow?_eq away]
    cases led : other.follow? false maxLinks
        (if FilePath.isAbsolute path then [] else base) (FilePath.parts path) with
    | none => rfl
    | some last =>
      have ne : last ≠ place := by
        rintro rfl
        exact away (follow?_eq_some_iff.mpr (leads_of_follow? led).creating)
      simp only [twins.readAt_eq ne]
  · have base_eq : ∀ base, other.resolve? root = some base → base = place :=
      fun base found => by_contra fun ne => based ⟨base, found, ne⟩
    have base_eq' : ∀ base, one.resolve? root = some base → base = place :=
      fun base found => by_contra fun ne => based ⟨base, twins.resolve?_of_ne found ne, ne⟩
    rw [load_of_vacant ordinary fun base found => base_eq' base found ▸ twins.isEnd.vacant,
      load_of_vacant ordinary fun base found => base_eq base found ▸ twins.isEnd'.vacant]

end Twins

end Stencil.FileTree
