import Stencil.Proofs.Files.Confined

/-!
# Paths without steps up

A step up takes back the name that was entered last. An import that stays inside its directory is
shortened to the names that no later step takes back, and a shortened path is not shortened any
further.

## Main definitions

* `FilePath.climb steps`: how far the steps climb above their start
* `FilePath.kept steps`: the names that no later step takes back

## Main results

* `FilePath.confineFrom?_of_climb_le`: what is left of names entered before and of the steps
* `FilePath.confine?_eq_some_iff`: what is left of a path that stays inside
* `confinedImport_iff`: which imports are accepted, as which path, and why others are not
-/

namespace Stencil

namespace FilePath

/-! ## Climbing -/

/-- How far the steps climb above their start; a name that is entered makes up for a later step
up, but not for an earlier one. -/
def climb : List PathPart → Nat
  | [] => 0
  | .here :: rest => climb rest
  | .up :: rest => climb rest + 1
  | .named _ :: rest => climb rest - 1

variable {inside names : List Text} {steps : List PathPart} {path : Text}

/-- The directory is left if the steps climb higher than names were entered before. -/
theorem confineFrom?_eq_none_iff_lt_climb :
    confineFrom? inside steps = none ↔ inside.length < climb steps := by
  fun_induction confineFrom? inside steps with
  | case1 => simp [climb]
  | case2 inside rest ih => rw [ih, climb]
  | case3 inside name rest ih =>
    rw [ih, climb, List.length_cons]
    omega
  | case4 rest => simp [climb]
  | case5 name inside rest ih =>
    rw [ih, climb, List.length_cons]
    omega

/-- Some beginning of the steps has more steps up than names exactly if the steps climb. -/
theorem climbs_iff_climb_pos : Climbs steps ↔ 0 < climb steps := by
  have left : confineFrom? [] steps = none ↔ 0 < climb steps :=
    confineFrom?_eq_none_iff_lt_climb
  rw [confineFrom?_eq_none_iff] at left
  simpa [Climbs] using left

instance : DecidablePred Climbs := fun _ => decidable_of_iff _ climbs_iff_climb_pos.symm

/-! ## Names that are left -/

/-- The names that no later step takes back. A name is taken back if what follows it climbs. -/
def kept : List PathPart → List Text
  | [] => []
  | .named name :: rest => if Climbs rest then kept rest else name :: kept rest
  | .here :: rest | .up :: rest => kept rest

/-- **What is left** of the names entered before, the last one first, and of the steps. -/
theorem confineFrom?_of_climb_le (low : climb steps ≤ inside.length) :
    confineFrom? inside steps = some ((inside.drop (climb steps)).reverse ++ kept steps) := by
  fun_induction confineFrom? inside steps with
  | case1 => simp [climb, kept]
  | case2 inside rest ih => rw [ih low, climb, kept]
  | case3 inside name rest ih =>
    rw [climb] at low
    rw [ih (by rw [List.length_cons]; omega), climb, kept]
    cases above : climb rest with
    | zero => simp [climbs_iff_climb_pos, above]
    | succ height => simp [climbs_iff_climb_pos, above]
  | case4 rest => simp [climb] at low
  | case5 name inside rest ih =>
    rw [climb, List.length_cons] at low
    rw [ih (by omega), climb, kept, List.drop_succ_cons]

/-- **A path that stays inside** is left with the names that no later step takes back. -/
theorem confine?_eq_some_iff : confine? path = some names ↔ ¬ Leaves path ∧ names = kept (parts path) := by
  by_cases leaves : Leaves path
  · simp [confine?_eq_none_iff.mpr leaves, leaves]
  · have relative : ¬ isAbsolute path = true := fun absolute => leaves (.inl absolute)
    have low : climb (parts path) ≤ ([] : List Text).length := by
      rw [List.length_nil, ← Nat.not_lt, ← climbs_iff_climb_pos]
      exact fun climbs => leaves (.inr climbs)
    rw [confine?, if_neg relative, confineFrom?_of_climb_le low]
    simp [leaves, eq_comm]

theorem not_climbs_map_named (names : List Text) : ¬ Climbs (names.map .named) := by
  rintro ⟨front, start, more⟩
  have up : .up ∈ front := List.count_pos_iff.mp (by omega)
  simpa using start.subset up

/-- Names alone are all left. -/
theorem kept_map_named (names : List Text) : kept (names.map .named) = names := by
  induction names with
  | nil => rfl
  | cons name rest ih => rw [List.map_cons, kept, if_neg (not_climbs_map_named rest), ih]

/-- What is left of a path are names that a directory can have for entries. -/
theorem isName_of_mem_kept (stays : ¬ Leaves path) : ∀ name ∈ kept (parts path), IsName name :=
  isName_of_confine? (confine?_eq_some_iff.mpr ⟨stays, rfl⟩)

end FilePath

/-! ## Accepted imports -/

open FilePath (Leaves kept ofNames parts)

variable {root path target : Text}

/-- An import that stays inside and is left with some name is accepted as the path of its names. -/
theorem confinedImport_of_stays (stays : ¬ Leaves path) :
    confinedImport root path =
      if kept (parts path) = [] then .error (.importNotFound path root)
      else .ok (ofNames (kept (parts path))) := by
  rw [confinedImport, FilePath.confine?_eq_some_iff.mpr ⟨stays, rfl⟩]
  split
  · next impossible => cases impossible
  · next none => rw [if_pos (Option.some.inj none)]
  · next names some found =>
    obtain rfl := Option.some.inj found
    rw [if_neg some]

/-- A path of names is accepted as it is. -/
theorem confinedImport_ofNames {names : List Text} (ne : names ≠ [])
    (h : ∀ name ∈ names, FilePath.IsName name) :
    confinedImport root (ofNames names) = .ok (ofNames names) := by
  obtain ⟨relative, named⟩ := FilePath.parts_ofNames ne h
  have stays : ¬ Leaves (ofNames names) := by
    rintro (absolute | climbs)
    · rw [relative] at absolute
      cases absolute
    · rw [named] at climbs
      exact FilePath.not_climbs_map_named names climbs
  rw [confinedImport_of_stays stays, named, FilePath.kept_map_named, if_neg ne]

/-- **Exactly the paths that stay inside are accepted.** An import is accepted if it is relative, no
beginning of it takes more steps up than it enters directories, and some name is left that no later
step takes back. It is accepted as the path of the names that are left, in their order, and this
path is accepted as it is. All that leave are refused for leaving, whatever they lead to, and those
without a name that is left are not found. -/
theorem confinedImport_iff (root path : Text) :
    (∀ target, confinedImport root path = .ok target ↔
      ¬ Leaves path ∧ kept (parts path) ≠ [] ∧ target = ofNames (kept (parts path))) ∧
    (∀ target, confinedImport root path = .ok target →
      parts target = (kept (parts path)).map .named ∧
      confinedImport root target = .ok target) ∧
    (∀ failure, confinedImport root path = .error failure ↔
      (Leaves path ∧ failure = .outsideRoot path root) ∨
      (¬ Leaves path ∧ kept (parts path) = [] ∧ failure = .importNotFound path root)) := by
  by_cases leaves : Leaves path
  · rw [confinedImport_of_leaves leaves]
    refine ⟨fun _ => ⟨nofun, fun h => absurd leaves h.1⟩, nofun, fun failure => ⟨?_, ?_⟩⟩
    · intro failed
      exact .inl ⟨leaves, (Except.error.inj failed).symm⟩
    · rintro (⟨-, rfl⟩ | ⟨stays, -⟩)
      · rfl
      · exact absurd leaves stays
  · have names := FilePath.isName_of_mem_kept leaves
    rw [confinedImport_of_stays leaves]
    by_cases none : kept (parts path) = []
    · rw [if_pos none]
      refine ⟨fun _ => ⟨nofun, fun h => absurd none h.2.1⟩, nofun, fun failure => ⟨?_, ?_⟩⟩
      · intro failed
        exact .inr ⟨leaves, none, (Except.error.inj failed).symm⟩
      · rintro (⟨absurd, -⟩ | ⟨-, -, rfl⟩)
        · exact (leaves absurd).elim
        · rfl
    · rw [if_neg none]
      refine ⟨fun target => ⟨?_, ?_⟩, ?_, fun failure => ⟨nofun, ?_⟩⟩
      · intro accepted
        exact ⟨leaves, none, (Except.ok.inj accepted).symm⟩
      · rintro ⟨-, -, rfl⟩
        rfl
      · intro target accepted
        obtain rfl := Except.ok.inj accepted
        exact ⟨(FilePath.parts_ofNames none names).2, confinedImport_ofNames none names⟩
      · rintro (⟨absurd, -⟩ | ⟨-, empty, -⟩)
        · exact (leaves absurd).elim
        · exact (none empty).elim

/-- A path that goes in and out, with repeated slashes and dots, is accepted as its names. -/
theorem confinedImport_iff_of_detour :
    confinedImport "t".toList "./a//../b/c/./d/../".toList = .ok "b/c".toList ∧
      parts "b/c".toList = [.named ['b'], .named ['c']] ∧
      confinedImport "t".toList "b/c".toList = .ok "b/c".toList := by
  have accepted : confinedImport "t".toList "./a//../b/c/./d/../".toList = .ok "b/c".toList := by
    decide +kernel
  obtain ⟨-, shortened, -⟩ := confinedImport_iff "t".toList "./a//../b/c/./d/../".toList
  exact ⟨accepted, (shortened _ accepted).1, (shortened _ accepted).2⟩

end Stencil
