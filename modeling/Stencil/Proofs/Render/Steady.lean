import Stencil.Proofs.Render.Compositional
import Stencil.Proofs.Render.Sequence

/-!
# Variables that stay as they are

A variable changes only where it is set. What sets it can be read off the texts: a placeholder sets
a name if it is an assignment to it, or if one stands in a text that can be rendered inside it, at
any depth. All other placeholders leave the variable, whether they fail or not, and whatever they
render sees it as it was.

## Main definitions

* `Fill.Sets`: a placeholder that sets a name, at any depth
* `Steady`: a part of a render in two forms that run alike for one value of a variable, and leave it
* `Fill.Enters`: what is rendered inside a placeholder

## Main results

* `Steady.compositional`: what is steady in its parts is steady
* `Fill.get?_of_run_placeholder`, `Fill.get?_of_run_placeholders`: variables that are not set stay
* `Fill.Enters.get?_eq`: they are seen by all that is rendered inside
* `Fill.Enters.globals_eq`: a block other than a loop renders one text, before anything is set
-/

namespace Stencil

open Markup (Placeholder scan)

/-! ## What sets a variable -/

namespace Fill

/-- The placeholder sets the variable `name`, or some text that can be rendered inside it has a
placeholder that does. -/
inductive Sets (setup : Setup) (name : Text) : (p : Placeholder) → Prop
  | assignment {p : Placeholder} {source : Text} (kind : p.kind = .assignment)
      (parts : assignmentParts? p.directive = some (name, source)) : Sets setup name p
  | enclosed {p q : Placeholder} {text : Text} (encloses : Encloses p text) (mem : q ∈ scan text)
      (sets : Sets setup name q) : Sets setup name p
  | imported {p q : Placeholder} {root path content : Text} (kind : p.kind = .inclusion)
      (hroot : setup.settings.templateRoot = some root)
      (confined : confinedImport root (importTarget p.directive) = .ok path)
      (loaded : setup.loader root path = .ok content) (mem : q ∈ scan content)
      (sets : Sets setup name q) : Sets setup name p

end Fill

theorem Fill.not_sets_of_simple {setup : Setup} {name : Text} {p : Placeholder}
    (kind : p.kind = .simple) : ¬ Sets setup name p := by
  intro sets
  cases sets with
  | assignment other => simp [kind] at other
  | enclosed encloses => cases encloses <;> simp_all
  | imported other => simp [kind] at other

/-! ## Steady parts -/

/-- From every progress in which the variable has the given value, or none, the part runs alike in
both of its forms, and the variable stays. -/
def Steady (name : Text) (value? : Option Value) {α : Type} (part : Bool → Render α) : Prop :=
  ∀ start, start.globals.get? name = value? →
    (part true).run start = (part false).run start ∧
      ((part false).run start).2.globals.get? name = value?

namespace Steady

variable {name : Text} {value? : Option Value} {α β : Type}

/-- A part that has one form is steady if it leaves the variable. -/
theorem constant {part : Render α}
    (keeps : ∀ start, (part.run start).2.globals.get? name = start.globals.get? name) :
    Steady name value? fun _ => part :=
  fun start here => ⟨rfl, (keeps start).trans here⟩

/-- **One part after the other.** The second one starts with the variable as the first one has
left it. -/
theorem bind {part : Bool → Render α} {next : Bool → α → Render β}
    (first : Steady name value? part) (second : ∀ a, Steady name value? fun i => next i a) :
    Steady name value? fun i => part i >>= next i := by
  intro start here
  obtain ⟨alike, keeps⟩ := first start here
  simp only [Render.run_bind, alike]
  rcases ran : (part false).run start with ⟨failure | a, middle⟩
  · rw [ran] at keeps
    exact ⟨rfl, keeps⟩
  · rw [ran] at keeps
    exact second a middle keeps

theorem compositional (setup : Setup) (name : Text) (value? : Option Value) :
    Compositional setup (fun _ : Bool => setup.unvaried) (fun other => other ≠ name)
      (Steady name value?) where
  pure _ := constant fun _ => rfl
  bind := bind
  env _ := constant fun _ => rfl
  assign other value := constant fun start => by
    rw [Render.run_assign, Bindings.get?_insert, if_neg other]
  complain _ _ := constant fun _ => by rw [Render.run_complain]
  tested _ := constant fun _ => rfl

end Steady

namespace Fill

variable {setup : Setup} {name : Text} {value? : Option Value}

/-- **A placeholder that does not set the variable** is steady if all texts are that set it
nowhere. -/
theorem steady_placeholder (nested : Bool → Nested) {p : Placeholder}
    (inside : ∀ locals text, (∀ q ∈ scan text, ¬ Sets setup name q) →
      Steady name value? fun i => nested i locals text)
    (unset : ¬ Sets setup name p) (locals : Scope) :
    Steady name value? fun i => placeholder setup (nested i) locals p := by
  have compositional := Steady.compositional setup name value?
  refine compositional.placeholder locals ?_ ?_ ?_
  · rintro other source kind parts rfl
    exact unset (.assignment kind parts)
  · intro locals text encloses
    exact inside locals text fun q mem sets => unset (.enclosed encloses mem sets)
  · intro kind
    refine compositional.inclusion locals (fun _ => rfl) (fun _ => Steady.constant fun _ => rfl)
      (fun _ => Steady.constant fun _ => rfl) ?_
    intro root path content hroot confined loaded
    exact inside locals content fun q mem sets =>
      unset (.imported kind hroot confined loaded mem sets)

/-- **A render of a text that sets the variable nowhere** leaves it. -/
theorem steady_renderWithin (levels : Nat) (locals : Scope) (text : Text)
    (unset : ∀ p ∈ scan text, ¬ Sets setup name p) :
    Steady name value? fun _ => renderWithin setup levels locals text := by
  induction levels generalizing locals text with
  | zero => exact Steady.constant fun _ => rfl
  | succ levels ih =>
    refine (Steady.compositional setup name value?).renderWithin_succ locals (fun _ => levels)
      (Steady.constant fun _ => rfl) fun p mem => ?_
    exact steady_placeholder (fun _ => renderWithin setup levels) ih (unset p mem) locals

section Run

variable {levels : Nat} {locals : Scope} {start middle : Progress}

/-- **A placeholder that does not set the variable** leaves it. -/
theorem get?_of_run_placeholder {p : Placeholder} {result : Except Failure (Option Text)}
    (ran : (placeholder setup (renderWithin setup levels) locals p).run start = (result, middle))
    (unset : ¬ Sets setup name p) : middle.globals.get? name = start.globals.get? name := by
  have steady : Steady name (start.globals.get? name) fun _ =>
      placeholder setup (renderWithin setup levels) locals p :=
    steady_placeholder (fun _ => renderWithin setup levels) (steady_renderWithin levels) unset
      locals
  have keeps := (steady start rfl).2
  rwa [ran] at keeps

/-- Placeholders that do not set the variable leave it. -/
theorem get?_of_run_placeholders {ps : List Placeholder} {result : Except Failure Replacements}
    (ran : (placeholders setup (renderWithin setup levels) locals ps).run start = (result, middle))
    (unset : ∀ p ∈ ps, ¬ Sets setup name p) :
    middle.globals.get? name = start.globals.get? name := by
  have steady : Steady name (start.globals.get? name) fun _ =>
      placeholders setup (renderWithin setup levels) locals ps :=
    (Steady.compositional setup name _).placeholders locals fun p mem =>
      steady_placeholder (fun _ => renderWithin setup levels) (steady_renderWithin levels)
        (unset p mem) locals
  have keeps := (steady start rfl).2
  rwa [ran] at keeps

end Run

/-! ## Texts that are rendered before anything is set -/

section Congr

variable {nested other : Nested} {locals : Scope}

/-- The branch of a conditional block is rendered with the variables as they were. -/
theorem run_branches_congr {directive raw : Text} {start : Progress}
    (same : ∀ scope content progress, progress.globals = start.globals →
      (other scope content).run progress = (nested scope content).run progress)
    (tags : List Markup.Tag) :
    (branches setup other locals directive raw tags).run start =
      (branches setup nested locals directive raw tags).run start := by
  induction tags generalizing start with
  | nil => rfl
  | cons tag tags ih =>
    cases tags with
    | nil => rfl -- the last tag closes the block, so there is no text behind it
    | cons next rest =>
      -- a condition sets nothing, so its branch finds the variables as the block has found them
      obtain ⟨taken, trail, ran⟩ := exists_run_isTaken setup locals tag start
      simp only [branches]
      split
      · rfl
      · rw [Render.run_bind, Render.run_bind, ran]
        rcases taken with e | - | -
        · rfl
        · exact ih same
        · simp only [Render.run_bind, same _ _ { start with trail } rfl]

/-- A text that was loaded is rendered with the variables as they were. -/
theorem run_inclusion_congr {directive : Text} {start : Progress}
    (same : ∀ scope content progress, progress.globals = start.globals →
      (other scope content).run progress = (nested scope content).run progress) :
    (inclusion setup other locals directive).run start =
      (inclusion setup nested locals directive).run start := by
  cases importCase setup directive with
  | noRoot hroot => rw [run_inclusion_of_none start hroot, run_inclusion_of_none start hroot]
  | refused hroot refused =>
    rw [run_inclusion_of_refused start hroot refused, run_inclusion_of_refused start hroot refused]
  | failed hroot confined failed =>
    rw [run_inclusion_of_failed start hroot confined failed,
      run_inclusion_of_failed start hroot confined failed]
  | loaded hroot confined loaded =>
    rw [run_inclusion_of_loaded start hroot confined loaded,
      run_inclusion_of_loaded start hroot confined loaded, Render.run_bind, Render.run_bind, same]
    rfl

end Congr

/-! ## What is rendered inside a placeholder -/

/-- While the placeholder is filled from `start`, `text` is rendered inside it with the given
bindings of the loops around it, from the progress `inner`: what becomes of the placeholder depends
on what this render does. -/
def Enters (setup : Setup) (nested : Nested) (locals : Scope) (p : Placeholder) (start : Progress)
    (locals' : Scope) (text : Text) (inner : Progress) : Prop :=
  ∃ other : Nested,
    (∀ scope content progress, (scope, content, progress) ≠ (locals', text, inner) →
      (other scope content).run progress = (nested scope content).run progress) ∧
    (placeholder setup other locals p).run start ≠ (placeholder setup nested locals p).run start

namespace Enters

variable {nested : Nested} {locals locals' : Scope} {p : Placeholder} {start inner : Progress}
  {text : Text} {levels : Nat}

/-- A text that takes the place of a placeholder is rendered inside it. -/
theorem of_inside
    (h : ∀ other,
      (placeholder setup other locals p).run start = (inside other locals' text).run inner) :
    Enters setup nested locals p start locals' text inner := by
  classical
  let outcome : Except Failure Rendered :=
    match ((nested locals' text).run inner).1 with
    | .ok _ => .error (.tooDeep 0)
    | .error _ => .ok ⟨[], [], []⟩
  let other : Nested := fun scope content => ExceptT.mk fun progress =>
    if (scope, content, progress) = (locals', text, inner) then (outcome, progress)
    else (nested scope content).run progress
  have here : (other locals' text).run inner = (outcome, inner) := if_pos rfl
  refine ⟨other, fun scope content progress differs => if_neg differs, ?_⟩
  rw [h, h, inside, inside, Render.run_bind, Render.run_bind, here]
  intro same
  rcases ran : (nested locals' text).run inner with ⟨failure | rendered, stop⟩
  · simp only [outcome, ran] at same
    cases same
  · simp only [outcome, ran] at same
    cases same

/-- **A variable that the placeholder does not set** is seen by all that is rendered inside. -/
theorem get?_eq
    (enters : Enters setup (renderWithin setup levels) locals p start locals' text inner)
    (unset : ¬ Sets setup name p) : inner.globals.get? name = start.globals.get? name := by
  by_contra differs
  obtain ⟨other, same, matters⟩ := enters
  apply matters
  let nested (i : Bool) : Nested := if i then other else renderWithin setup levels
  -- the two ways to render inside agree wherever the variable has its value
  have steady : Steady name (start.globals.get? name) fun i =>
      placeholder setup (nested i) locals p := by
    refine steady_placeholder nested ?_ unset locals
    intro scope content quiet progress here
    refine ⟨same scope content progress ?_, ?_⟩
    · rintro ⟨⟩
      exact differs here
    · exact (steady_renderWithin levels scope content quiet progress here).2
  exact (steady start rfl).1

/-- **A block other than a loop** renders one text, before anything is set. -/
theorem globals_eq (enters : Enters setup nested locals p start locals' text inner)
    (single : p.kind ≠ .loop) : inner.globals = start.globals := by
  by_contra differs
  obtain ⟨other, same, matters⟩ := enters
  apply matters
  have alike : ∀ scope content progress, progress.globals = start.globals →
      (other scope content).run progress = (nested scope content).run progress := by
    intro scope content progress here
    apply same
    rintro ⟨⟩
    exact differs here
  rw [placeholder, placeholder]
  cases kind : p.kind with
  | simple => rfl
  | assignment => rfl
  | conditional => exact run_branches_congr alike _
  | loop => exact absurd kind single
  | inclusion => exact run_inclusion_congr alike

end Enters

end Fill

end Stencil
