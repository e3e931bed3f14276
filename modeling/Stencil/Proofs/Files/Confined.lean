import Stencil.Proofs.Text.Parts
import Stencil.Render.Loader

/-!
# Paths that stay inside

A path leaves the directory where it starts if it begins at the root, or if some beginning of it
takes more steps up than it enters directories. An import that does not leave reaches a loader as
a path of names only.

## Main definitions

* `FilePath.IsOrdinary path`: a relative path of names
* `FilePath.Climbs parts`, `FilePath.Leaves path`: the start is left on the way

## Main results

* `FilePath.confine?_eq_none_iff`: a path is refused exactly if it leaves its start
* `isOrdinary_of_confinedImport`: what reaches a loader is a path of names
-/

namespace Stencil

/-! ## Ordinary paths -/

/-- Whether a part enters a directory. -/
def PathPart.isNamed : PathPart → Bool
  | .named _ => true
  | _ => false

namespace FilePath

/-- A relative path of names. -/
structure IsOrdinary (path : Text) : Prop where
  nonempty : path ≠ []
  relative : isAbsolute path = false
  named : ∀ part ∈ parts path, part.isNamed

/-- A name that a directory can have for an entry. -/
def IsName (name : Text) : Prop := '/' ∉ name ∧ PathPart.ofText name = .named name

theorem IsName.ne_nil {name : Text} (h : IsName name) : name ≠ [] := by
  rintro rfl
  cases h.2

/-- The sections of a path hold no slash, so those that lead on are names. -/
theorem isName_of_mem_parts {path name : Text} (h : .named name ∈ parts path) : IsName name := by
  obtain ⟨part, mem, same⟩ := List.mem_map.mp h
  have noSlash := Text.eq_false_of_mem_split mem
  have named : part = name := by
    rw [PathPart.ofText] at same
    split at same
    · cases same
    · split at same
      · cases same
      · exact PathPart.named.inj same
  subst named
  exact ⟨fun found => by simpa using noSlash _ found, same⟩

/-- A path of names is relative, and its parts are these names. -/
theorem parts_ofNames {names : List Text} (ne : names ≠ []) (h : ∀ name ∈ names, IsName name) :
    isAbsolute (ofNames names) = false ∧ parts (ofNames names) = names.map .named := by
  -- no name holds a slash, so the joined text is cut back into the names
  have cut : Text.split (· == '/') (ofNames names) = names :=
    Text.split_join rfl ne fun name mem d hd =>
      beq_eq_false_iff_ne.mpr fun same => (h name mem).1 (same ▸ hd)
  have relative : isAbsolute (ofNames names) = false := by
    obtain ⟨first, others, rfl⟩ := List.exists_cons_of_ne_nil ne
    obtain ⟨c, front, rfl⟩ := List.exists_cons_of_ne_nil (h first (List.mem_cons_self ..)).ne_nil
    have start : ∃ rest, ofNames ((c :: front) :: others) = c :: rest := by
      cases others <;> exact ⟨_, rfl⟩
    obtain ⟨rest, same⟩ := start
    have slash : c ≠ '/' := fun same =>
      (h _ (List.mem_cons_self ..)).1 (same ▸ List.mem_cons_self ..)
    simpa [isAbsolute, same] using slash
  refine ⟨relative, ?_⟩
  rw [parts, sections, relative, if_neg Bool.false_ne_true, cut]
  exact List.map_congr_left fun name mem => (h name mem).2

/-- A path of names is ordinary. -/
theorem isOrdinary_ofNames {names : List Text} (ne : names ≠ [])
    (h : ∀ name ∈ names, IsName name) : IsOrdinary (ofNames names) := by
  obtain ⟨relative, named⟩ := parts_ofNames ne h
  refine ⟨?_, relative, ?_⟩
  · intro empty
    rw [empty] at named
    have here : PathPart.here ∈ parts [] := List.mem_singleton_self _
    rw [named] at here
    obtain ⟨name, -, same⟩ := List.mem_map.mp here
    cases same
  · intro part mem
    rw [named] at mem
    obtain ⟨name, -, rfl⟩ := List.mem_map.mp mem
    rfl

/-! ## Leaving the start -/

/-- Some beginning of the parts takes more steps up than it enters directories. -/
def Climbs (steps : List PathPart) : Prop :=
  ∃ front, front <+: steps ∧ front.countP PathPart.isNamed < front.count .up

/-- The path begins at the root or climbs above its start. -/
def Leaves (path : Text) : Prop :=
  isAbsolute path = true ∨ Climbs (parts path)

/-- The start is left after the first step or at once. -/
theorem exists_prefix_cons_iff {step : PathPart} {steps : List PathPart}
    {Q : List PathPart → Prop} :
    (∃ front, front <+: step :: steps ∧ Q front) ↔
      Q [] ∨ ∃ front, front <+: steps ∧ Q (step :: front) := by
  constructor
  · rintro ⟨front, start, h⟩
    rcases List.prefix_cons_iff.mp start with rfl | ⟨later, rfl, rest⟩
    · exact .inl h
    · exact .inr ⟨later, rest, h⟩
  · rintro (h | ⟨front, start, h⟩)
    · exact ⟨[], List.nil_prefix, h⟩
    · exact ⟨step :: front, (List.prefix_cons_inj step).mpr start, h⟩

/-- With names entered before, so many more steps up are possible. -/
theorem confineFrom?_eq_none_iff {inside : List Text} {steps : List PathPart} :
    confineFrom? inside steps = none ↔
      ∃ front, front <+: steps ∧
        inside.length + front.countP PathPart.isNamed < front.count .up := by
  -- the walk takes a name back for every step up, so the names inside count as entered before
  fun_induction confineFrom? inside steps with
  | case1 inside => simp
  | case2 inside rest ih =>
    rw [ih, exists_prefix_cons_iff]
    simp [PathPart.isNamed]
  | case3 inside name rest ih =>
    rw [ih, exists_prefix_cons_iff]
    simp [List.countP_cons, PathPart.isNamed, Nat.add_comm, Nat.add_left_comm]
  | case4 rest =>
    rw [exists_prefix_cons_iff]
    simp only [true_iff]
    exact .inr ⟨[], List.nil_prefix, by decide⟩
  | case5 name inside rest ih =>
    rw [ih, exists_prefix_cons_iff]
    simp [PathPart.isNamed, Nat.add_right_comm]

/-- **A path is refused** exactly if it leaves its start. -/
theorem confine?_eq_none_iff {path : Text} : confine? path = none ↔ Leaves path := by
  rw [confine?, Leaves]
  split
  · next absolute => simp [absolute]
  · next relative => simp [relative, confineFrom?_eq_none_iff, Climbs]

/-- The names that are left were named in the path. -/
theorem mem_parts_of_mem_confineFrom? {inside names : List Text} {steps : List PathPart}
    (h : confineFrom? inside steps = some names) {name : Text} (mem : name ∈ names) :
    name ∈ inside ∨ .named name ∈ steps := by
  fun_induction confineFrom? inside steps with
  | case1 inside =>
    cases h
    exact .inl (List.mem_reverse.mp mem)
  | case2 inside rest ih => exact (ih h).imp_right (List.mem_cons_of_mem _)
  | case3 inside entered rest ih =>
    rcases ih h with found | found
    · rcases List.mem_cons.mp found with rfl | found
      · exact .inr (List.mem_cons_self ..)
      · exact .inl found
    · exact .inr (List.mem_cons_of_mem _ found)
  | case4 rest => cases h
  | case5 left inside rest ih =>
    exact (ih h).imp (List.mem_cons_of_mem _) (List.mem_cons_of_mem _)

/-- What is left of a path that stays inside are names. -/
theorem isName_of_confine? {path : Text} {names : List Text} (h : confine? path = some names) :
    ∀ name ∈ names, IsName name := by
  intro name mem
  rw [confine?] at h
  split at h
  · cases h
  · rcases mem_parts_of_mem_confineFrom? h mem with found | found
    · cases found
    · exact isName_of_mem_parts found

end FilePath

/-! ## Imports -/

open FilePath (IsOrdinary Leaves)

variable {root target path : Text}

/-- An import that leaves reaches no loader. -/
theorem confinedImport_of_leaves (h : Leaves target) :
    confinedImport root target = .error (.outsideRoot target root) := by
  rw [confinedImport, FilePath.confine?_eq_none_iff.mpr h]

/-- **What reaches a loader is a path of names.** -/
theorem isOrdinary_of_confinedImport (h : confinedImport root target = .ok path) :
    IsOrdinary path := by
  rw [confinedImport] at h
  split at h
  · cases h
  · cases h
  · next names nonempty found =>
    cases h
    exact FilePath.isOrdinary_ofNames nonempty (FilePath.isName_of_confine? found)

end Stencil
