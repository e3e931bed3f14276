import Mathlib.Data.List.Basic
import Mathlib.Logic.Relation
import Stencil.Proofs.Files.Saved
import Stencil.Render.Loader

/-!
# Files loaded from a directory of templates

A path is followed one part at a time, and a link is replaced by its target on the way. A way ends
at a place, it breaks off where something is missing, or it comes to a link that leads back to
itself. An import is loaded from the end of its way, provided that this place lies in the directory
of templates, which is itself the end of a way. Places are compared name by name.

## Main definitions

* `FileTree.Step tree`: one step on a way
* `FileTree.Resolves tree start place`: the way ends at a place, links followed
* `FileTree.BreaksOff tree start`, `FileTree.Circles tree start`: the ways that do not end
* `FileTree.Canonicalizes tree start`: the end of the way, if there is one, is found within the
  limit on links

## Main results

* `FileTree.Resolves.unique`: a way ends at one place
* `FileTree.Resolves.not_breaksOff`, `FileTree.Resolves.not_circles`: and then it does nothing else
* `FileTree.load_guarded`: what is loaded lies in the directory of templates, and what is not
  loaded is refused for leaving it or is not found
-/

namespace Stencil.FileTree

open Relation (ReflTransGen TransGen)

/-- A place on a way, and the parts that are still to be followed from there. -/
abbrev Waypoint := Place × List PathPart

variable {tree : FileTree} {start stop next : Waypoint} {place base : Place} {root path : Text}

/-! ## Ways -/

/-- One step on a way. Every part asks for a directory. -/
inductive Step (tree : FileTree) : Waypoint → Waypoint → Prop
  | here {place : Place} {rest : List PathPart} (directory : tree.isDirectoryAt place = true) :
      Step tree (place, .here :: rest) (place, rest)
  | up {place : Place} {rest : List PathPart} (directory : tree.isDirectoryAt place = true) :
      Step tree (place, .up :: rest) (place.dropLast, rest)
  /-- A link is replaced by its target. -/
  | link {place : Place} {name target : Text} {rest : List PathPart}
      (directory : tree.isDirectoryAt place = true)
      (found : tree.entry? (place ++ [name]) = some (.link target)) :
      Step tree (place, .named name :: rest)
        (if FilePath.isAbsolute target then [] else place, FilePath.parts target ++ rest)
  | enter {place : Place} {name : Text} {entry : FileEntry} {rest : List PathPart}
      (directory : tree.isDirectoryAt place = true)
      (found : tree.entry? (place ++ [name]) = some entry) (noLink : ∀ target, entry ≠ .link target) :
      Step tree (place, .named name :: rest) (place ++ [name], rest)

/-- There is at most one next step. -/
theorem Step.unique (step : tree.Step start stop) (step' : tree.Step start next) : stop = next := by
  cases step with
  | here | up =>
    cases step'
    rfl
  | link _ found =>
    cases step' with
    | link _ found' => cases found.symm.trans found'; rfl
    | enter _ found' noLink => exact absurd (Option.some.inj (found'.symm.trans found)) (noLink _)
  | enter _ found noLink =>
    cases step' with
    | link _ found' => exact absurd (Option.some.inj (found.symm.trans found')) (noLink _)
    | enter => rfl

/-- A step does not depend on the parts that come later. -/
theorem Step.append (step : tree.Step start stop) (later : List PathPart) :
    tree.Step (start.1, start.2 ++ later) (stop.1, stop.2 ++ later) := by
  cases step with
  | here directory => exact .here directory
  | up directory => exact .up directory
  | link directory found =>
    rw [List.append_assoc]
    exact .link directory found
  | enter directory found noLink => exact .enter directory found noLink

/-- A link that leads back to itself is followed forever, with ever more parts behind it. -/
theorem not_acc_of_circle {name : Text} {more : List PathPart}
    (circle : TransGen tree.Step (place, [.named name]) (place, .named name :: more))
    (rest : List PathPart) :
    ¬ Acc (fun next current => tree.Step current next) (place, .named name :: rest) := by
  intro finite
  replace finite := finite.transGen
  generalize same : (place, PathPart.named name :: rest) = current at finite
  induction finite generalizing rest with
  | intro current _ ih =>
    subst same
    have again : TransGen tree.Step (place, .named name :: rest)
        (place, .named name :: (more ++ rest)) :=
      circle.lift (fun way : Waypoint => (way.1, way.2 ++ rest)) fun _ _ step => step.append rest
    exact ih _ (Relation.transGen_swap.mpr again) (more ++ rest) rfl

/-- **The way ends at a place**, with all its links followed. -/
def Resolves (tree : FileTree) (start : Waypoint) (place : Place) : Prop :=
  ReflTransGen tree.Step start (place, [])

/-- The way comes to a part that cannot be followed: where it has come to is no directory, or holds
no entry of this name. -/
def BreaksOff (tree : FileTree) (start : Waypoint) : Prop :=
  ∃ stop, ReflTransGen tree.Step start stop ∧ stop.2 ≠ [] ∧ ∀ next, ¬ tree.Step stop next

/-- The way comes to a link whose target leads back to this link. -/
def Circles (tree : FileTree) (start : Waypoint) : Prop :=
  ∃ place name rest more, ReflTransGen tree.Step start (place, .named name :: rest) ∧
    TransGen tree.Step (place, [.named name]) (place, .named name :: more)

namespace Resolves

/-- The rest of a way ends where the way does. -/
theorem of_reaches (reached : ReflTransGen tree.Step start stop) (h : tree.Resolves start place) :
    tree.Resolves stop place := by
  induction reached with
  | refl => exact h
  | tail _ step ih =>
    rcases ih.cases_head with rfl | ⟨next, first, rest⟩
    · cases step
    · exact step.unique first ▸ rest

/-- **A way ends at one place.** -/
theorem unique {other : Place} (h : tree.Resolves start place) (h' : tree.Resolves start other) :
    place = other := by
  rcases (h'.of_reaches h).cases_head with same | ⟨next, step, -⟩
  · exact (Prod.mk.inj same).1
  · cases step

/-- A way that ends does not break off. -/
theorem not_breaksOff (h : tree.Resolves start place) : ¬ tree.BreaksOff start := by
  rintro ⟨stop, reached, left, stuck⟩
  rcases (h.of_reaches reached).cases_head with rfl | ⟨next, step, -⟩
  · exact left rfl
  · exact stuck next step

/-- A way that ends cannot be followed forever. -/
theorem acc (h : tree.Resolves start place) :
    Acc (fun next current => tree.Step current next) start := by
  induction h using ReflTransGen.head_induction_on with
  | refl => exact .intro _ fun _ step => nomatch step
  | head step _ ih => exact .intro _ fun _ other => step.unique other ▸ ih

/-- A way that ends comes to no link that leads back to itself. -/
theorem not_circles (h : tree.Resolves start place) : ¬ tree.Circles start := by
  rintro ⟨place, name, rest, more, reached, circle⟩
  exact not_acc_of_circle circle rest (h.of_reaches reached).acc

end Resolves

/-! ## Ways that are followed -/

/-- A path leads to the end of its way. -/
theorem Leads.resolves {links : Nat} {parts : List PathPart} {last : Place}
    (h : tree.Leads false links place parts last) : tree.Resolves (place, parts) last := by
  induction h with
  | stop => exact .refl
  | here directory _ ih => exact .head (.here directory) ih
  | up directory _ ih => exact .head (.up directory) ih
  | make _ _ can => cases can
  | link directory found _ ih => exact .head (.link directory found) ih
  | enter directory found noLink _ ih => exact .head (.enter directory found noLink) ih

/-- The end of the way, if there is one, is found within the limit on links. -/
def Canonicalizes (tree : FileTree) (start : Waypoint) : Prop :=
  ∀ place, tree.Resolves start place → tree.follow? false maxLinks start.1 start.2 = some place

theorem canonicalizes_of_follow? (h : tree.follow? false maxLinks start.1 start.2 = some place) :
    tree.Canonicalizes start := by
  intro other ends
  rw [h, ends.unique (leads_of_follow? h).resolves]

/-! ## Loading -/

/-- What is read is the text of the file at the place. -/
theorem readAt_eq_ok_iff {content : Text} :
    tree.readAt place = .ok content ↔ tree.entry? place = some (.file (.text content)) := by
  rw [readAt]
  split
  · next text found => simp [found]
  · next found => simp [found]
  · next found => simp [found]
  · next found => simp [found]
  · next found => simp [found]

/-- The way of a path from where paths start. -/
def wayOf (tree : FileTree) (path : Text) : Waypoint := (tree.startOf path, FilePath.parts path)

/-- The way of an import from the directory of templates. -/
def wayFrom (base : Place) (path : Text) : Waypoint :=
  (if FilePath.isAbsolute path then [] else base, FilePath.parts path)

/-- A path names a place: it is not empty, and its way ends there. -/
def Names (tree : FileTree) (path : Text) (place : Place) : Prop :=
  path ≠ [] ∧ tree.Resolves (tree.wayOf path) place

/-- What a path is resolved to is the place that it names. -/
theorem names_of_resolve? (h : tree.resolve? path = some place) : tree.Names path place := by
  rw [resolve?] at h
  by_cases empty : path = []
  · rw [if_pos empty] at h
    cases h
  · rw [if_neg empty] at h
    exact ⟨empty, (leads_of_follow? h).resolves⟩

theorem Names.resolve?_eq (named : tree.Names path place)
    (canonical : tree.Canonicalizes (tree.wayOf path)) : tree.resolve? path = some place := by
  rw [resolve?, if_neg named.1]
  exact canonical place named.2

section Load

variable (found : tree.resolve? root = some base)
  (led : tree.follow? false maxLinks (wayFrom base path).1 (wayFrom base path).2 = some place)
include found led

/-- An import that leads out of the directory of templates is refused. -/
theorem load_of_outside (outside : ¬ base <+: place) :
    tree.load root path = .error (.outsideRoot path root) := by
  rw [load, found]
  simp only [wayFrom] at led
  simp only [led, Bool.eq_false_iff.mpr (mt List.isPrefixOf_iff_prefix.mp outside), Bool.not_false,
    if_true]

/-- An import that stays inside is read from the place to which it leads. -/
theorem load_of_inside (inside : base <+: place) :
    tree.load root path =
      match tree.readAt place with
      | .ok content => .ok content
      | .error .notText => .error (.file .notText)
      | .error _ => .error (.importNotFound path root) := by
  rw [load, found]
  simp only [wayFrom] at led
  simp only [led]
  exact if_neg (by rw [List.isPrefixOf_iff_prefix.mpr inside]; decide)

end Load

/-- An import that is not just not found has a way that leads somewhere, and so has the directory. -/
theorem load_eq_or_led (tree : FileTree) (root path : Text) :
    tree.load root path = .error (.importNotFound path root) ∨
      ∃ base place, tree.resolve? root = some base ∧
        tree.follow? false maxLinks (wayFrom base path).1 (wayFrom base path).2 = some place := by
  cases found : tree.resolve? root with
  | none =>
    left
    rw [load, found]
  | some base =>
    cases led : tree.follow? false maxLinks (wayFrom base path).1 (wayFrom base path).2 with
    | none =>
      left
      simp only [wayFrom] at led
      rw [load, found]
      simp only [led]
    | some place => exact .inr ⟨base, place, rfl, led⟩

/-- **The directory of templates is guarded.** Whatever links stand on the ways, an import has the
text of a file whose place, with all links followed, lies in the directory of templates, with all
its links followed. If the way of the directory or of the import breaks off or circles, nothing is
found, and no directory that lies inside is found either. Where canonicalization resolves the two
ways, an import that leads outside is refused for this, and a text inside is loaded. -/
theorem load_guarded (tree : FileTree) (root path : Text) :
    (∀ content, tree.load root path = .ok content →
      ∃ base place, tree.Names root base ∧ tree.Resolves (wayFrom base path) place ∧
        base <+: place ∧ tree.entry? place = some (.file (.text content))) ∧
    (root = [] ∨ tree.BreaksOff (tree.wayOf root) ∨ tree.Circles (tree.wayOf root) →
      tree.load root path = .error (.importNotFound path root)) ∧
    (∀ base, tree.Names root base →
      tree.BreaksOff (wayFrom base path) ∨ tree.Circles (wayFrom base path) →
        tree.load root path = .error (.importNotFound path root)) ∧
    (∀ base place, tree.Names root base → tree.Resolves (wayFrom base path) place →
      (base <+: place → tree.isDirectoryAt place = true →
        tree.load root path = .error (.importNotFound path root)) ∧
      (tree.Canonicalizes (tree.wayOf root) → tree.Canonicalizes (wayFrom base path) →
        (¬ base <+: place → tree.load root path = .error (.outsideRoot path root)) ∧
        (∀ content, base <+: place → tree.entry? place = some (.file (.text content)) →
          tree.load root path = .ok content))) := by
  refine ⟨?_, ?_, ?_, ?_⟩
  · intro content loaded
    rcases load_eq_or_led tree root path with lost | ⟨base, place, found, led⟩
    · rw [lost] at loaded
      cases loaded
    have inside : base <+: place := by
      by_contra outside
      rw [load_of_outside found led outside] at loaded
      cases loaded
    rw [load_of_inside found led inside] at loaded
    refine ⟨base, place, names_of_resolve? found, (leads_of_follow? led).resolves, inside, ?_⟩
    split at loaded
    · next read =>
      cases loaded
      exact readAt_eq_ok_iff.mp read
    · cases loaded
    · cases loaded
  · intro lost
    rcases load_eq_or_led tree root path with same | ⟨base, place, found, -⟩
    · exact same
    obtain ⟨nonempty, ends⟩ := names_of_resolve? found
    rcases lost with empty | broken | circles
    · exact absurd empty nonempty
    · exact absurd broken ends.not_breaksOff
    · exact absurd circles ends.not_circles
  · intro base named lost
    rcases load_eq_or_led tree root path with same | ⟨other, place, found, led⟩
    · exact same
    obtain rfl := named.2.unique (names_of_resolve? found).2
    have ends := (leads_of_follow? led).resolves
    exact lost.elim (absurd · ends.not_breaksOff) (absurd · ends.not_circles)
  · intro base place named ends
    refine ⟨fun inside directory => ?_, fun canonical canonical' => ?_⟩
    · rcases load_eq_or_led tree root path with same | ⟨other, last, found, led⟩
      · exact same
      obtain rfl := named.2.unique (names_of_resolve? found).2
      obtain rfl := ends.unique (leads_of_follow? led).resolves
      rw [load_of_inside found led inside, readAt, isDirectoryAt_iff.mp directory]
    · have found := named.resolve?_eq canonical
      have led := canonical' place ends
      refine ⟨load_of_outside found led, fun content inside holds => ?_⟩
      rw [load_of_inside found led inside, readAt_eq_ok_iff.mpr holds]

/-- The directory of templates is itself a link. In it stand a file, a link out of it to a directory
whose name only begins like its own, and two links that lead to each other. -/
theorem load_guarded_of_links :
    let tree : FileTree :=
      { entries :=
          [(["w".toList], .directory), (["w".toList, "t".toList], .link "real"),
            (["w".toList, "real".toList], .directory),
            (["w".toList, "real".toList, "in".toList], .file (.text "x")),
            (["w".toList, "real".toList, "out".toList], .link "../really/s"),
            (["w".toList, "real".toList, "a".toList], .link "b"),
            (["w".toList, "real".toList, "b".toList], .link "./a"),
            (["w".toList, "really".toList], .directory),
            (["w".toList, "really".toList, "s".toList], .file (.text "y"))]
        workingDirectory := ["w".toList] }
    tree.load "t" "in" = .ok "x".toList ∧
      tree.load "t" "out" = .error (.outsideRoot "out" "t") ∧
      tree.load "t" "a" = .error (.importNotFound "a" "t") ∧
      tree.load "t" "." = .error (.importNotFound "." "t") := by
  intro tree
  let real : Place := ["w".toList, "real".toList]
  have found : tree.resolve? "t" = some real := by decide +kernel
  have named : tree.Names "t" real := names_of_resolve? found
  have canonical : tree.Canonicalizes (tree.wayOf "t") :=
    canonicalizes_of_follow? (show _ = some real by decide +kernel)
  have led (path : Text) (place : Place)
      (h : tree.follow? false maxLinks (wayFrom real path).1 (wayFrom real path).2 = some place) :
      tree.Resolves (wayFrom real path) place ∧ tree.Canonicalizes (wayFrom real path) :=
    ⟨(leads_of_follow? h).resolves, canonicalizes_of_follow? h⟩
  refine ⟨?_, ?_, ?_, ?_⟩
  · obtain ⟨ends, canonical'⟩ := led "in" (real ++ ["in".toList]) (by decide +kernel)
    obtain ⟨-, -, -, ended⟩ := load_guarded tree "t" "in"
    exact ((ended _ _ named ends).2 canonical canonical').2 _ (List.prefix_append ..) rfl
  · obtain ⟨ends, canonical'⟩ := led "out" ["w".toList, "really".toList, "s".toList]
      (by decide +kernel)
    obtain ⟨-, -, -, ended⟩ := load_guarded tree "t" "out"
    exact ((ended _ _ named ends).2 canonical canonical').1 (by decide)
  · obtain ⟨-, -, lost, -⟩ := load_guarded tree "t" "a"
    refine lost real named (.inr ⟨real, "a".toList, [], [], .refl, ?_⟩)
    refine .head (.link rfl rfl) (.head (.link rfl rfl) (.single (.here rfl)))
  · obtain ⟨ends, -⟩ := led "." real (by decide +kernel)
    obtain ⟨-, -, -, ended⟩ := load_guarded tree "t" "."
    exact (ended _ _ named ends).1 (List.prefix_refl _) rfl

end Stencil.FileTree
