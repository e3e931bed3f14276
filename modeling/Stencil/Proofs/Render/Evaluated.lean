import Stencil.Proofs.Render.Steady

/-!
# What a render evaluates

A block or an import asks how texts are rendered inside it, and nothing else about these renders
matters to it: two ways to render inside that agree on all that is asked for fill it alike. So
what a render comes to is decided by the placeholders that it evaluates on its way, at any depth.

## Main definitions

* `Asks part nested start locals text inner`: a part of a render depends on how `text` is rendered
* `Faithful`: a part of a render that depends on what it asks for only
* `Fill.Evaluates`: the placeholders that are filled while others are, with their surroundings
* `Fill.Brings`, `Fill.Reaches`: the placeholders that can be evaluated, as the texts tell

## Main results

* `Faithful.compositional`: what is faithful in its parts is faithful
* `Fill.Enters.congr`: a placeholder is filled alike if all that is rendered inside it is
* `Fill.Evaluates.reaches`: what is evaluated stands in the template or in an imported text
-/

namespace Stencil

open Markup (Placeholder scan)

variable {α β : Type} {setup : Setup} {nested other : Nested} {locals locals' : Scope}
  {start inner begun : Progress} {text : Text} {levels : Nat} {p q : Placeholder}

/-! ## What is asked for -/

open Classical in
/-- The same way to render inside, except that one text fails where it is rendered with the given
bindings from the given progress. -/
noncomputable def Nested.failing (nested : Nested) (locals : Scope) (text : Text)
    (inner : Progress) (failure : Failure) : Nested := fun scope content =>
  ExceptT.mk fun progress =>
    if (scope, content, progress) = (locals, text, inner) then (.error failure, inner)
    else (nested scope content).run progress

theorem Nested.run_failing_self {failure : Failure} :
    (nested.failing locals text inner failure locals text).run inner = (.error failure, inner) :=
  if_pos rfl

theorem Nested.run_failing_of_ne {failure : Failure} {scope : Scope} {content : Text}
    {progress : Progress} (differs : (scope, content, progress) ≠ (locals, text, inner)) :
    (nested.failing locals text inner failure scope content).run progress =
      (nested scope content).run progress :=
  if_neg differs

/-- The part asks how `text` is rendered with the given bindings from the progress `inner`: if that
fails, the part fails with it. -/
def Asks (part : Nested → Render α) (nested : Nested) (start : Progress) (locals : Scope)
    (text : Text) (inner : Progress) : Prop :=
  ∀ failure, ((part (nested.failing locals text inner failure)).run start).1 = .error failure

/-- The part runs alike for two ways to render inside that agree on all that it asks for. -/
def Faithful (part : Nested → Render α) : Prop :=
  ∀ nested other start,
    (∀ locals text inner, Asks part nested start locals text inner →
      (other locals text).run inner = (nested locals text).run inner) →
    (part other).run start = (part nested).run start

namespace Faithful

/-- A part that renders nothing inside is faithful. -/
theorem constant (part : Render α) : Faithful fun _ => part :=
  fun _ _ _ _ => rfl

/-- A part that renders one text inside is faithful. -/
theorem inside (locals : Scope) (text : Text) : Faithful fun nested => nested locals text := by
  intro nested other start same
  refine same locals text start fun failure => ?_
  rw [Nested.run_failing_self]

/-- **One part after the other.** What the second part asks for is asked by both, since the first
part comes out alike unless it asks for the same. -/
theorem bind {part : Nested → Render α} {next : Nested → α → Render β} (first : Faithful part)
    (second : ∀ a, Faithful fun nested => next nested a) :
    Faithful fun nested => part nested >>= next nested := by
  intro nested other start same
  have earlier {locals text inner} (asks : Asks part nested start locals text inner) :
      Asks (fun nested => part nested >>= next nested) nested start locals text inner := by
    intro failure
    have failed := asks failure
    rw [Render.run_bind]
    rcases ran : (part (nested.failing locals text inner failure)).run start with
      ⟨failure' | a, middle⟩
    · rw [ran] at failed
      cases failed
      rfl
    · rw [ran] at failed
      cases failed
  have alike := first nested other start fun locals text inner asks =>
    same locals text inner (earlier asks)
  simp only [Render.run_bind, alike]
  rcases ran : (part nested).run start with ⟨failure | a, middle⟩
  · rfl
  · refine second a nested other middle fun locals text inner asks => ?_
    by_cases before : Asks part nested start locals text inner
    · exact same locals text inner (earlier before)
    · refine same locals text inner fun failure => ?_
      have passed := first nested (nested.failing locals text inner failure) start
        fun scope content progress asks' => Nested.run_failing_of_ne (by
          rintro ⟨⟩
          exact before asks')
      rw [Render.run_bind, passed, ran]
      exact asks failure

theorem compositional (setup : Setup) :
    Compositional setup (fun _ : Nested => setup.unvaried) (fun _ => True) Faithful where
  pure _ := constant _
  bind := bind
  env _ := constant _
  assign _ _ := constant _
  complain _ _ := constant _
  tested _ := constant _

end Faithful

namespace Fill

/-- **A placeholder is faithful** to the texts that are rendered inside it. -/
theorem faithful_placeholder (setup : Setup) (locals : Scope) (p : Placeholder) :
    Faithful fun nested => placeholder setup nested locals p := by
  have compositional := Faithful.compositional setup
  refine compositional.placeholder locals (fun _ _ _ _ => trivial)
    (fun locals text _ => Faithful.inside locals text) fun _ => ?_
  exact compositional.inclusion locals (fun _ => rfl) (fun _ => Faithful.constant _)
    (fun _ => Faithful.constant _) fun _ _ content _ _ _ => Faithful.inside locals content

/-- What a placeholder asks for is rendered inside it. -/
theorem enters_of_asks
    (asks : Asks (fun nested => placeholder setup nested locals p) nested start locals' text
      inner) : Enters setup nested locals p start locals' text inner := by
  obtain ⟨failure, differs⟩ : ∃ failure : Failure,
      ((placeholder setup nested locals p).run start).1 ≠ .error failure := by
    by_cases first : ((placeholder setup nested locals p).run start).1 = .error (.tooDeep 0)
    · refine ⟨.tooDeep 1, ?_⟩
      rw [first]
      intro same
      cases same
    · exact ⟨.tooDeep 0, first⟩
  refine ⟨nested.failing locals' text inner failure,
    fun _ _ _ differs => Nested.run_failing_of_ne differs, fun same => differs ?_⟩
  rw [← same]
  exact asks failure

/-- **A placeholder is filled alike** if all that is rendered inside it is rendered alike. -/
theorem Enters.congr
    (same : ∀ locals' text inner, Enters setup nested locals p start locals' text inner →
      (other locals' text).run inner = (nested locals' text).run inner) :
    (placeholder setup other locals p).run start =
      (placeholder setup nested locals p).run start :=
  faithful_placeholder setup locals p nested other start fun locals' text inner asks =>
    same locals' text inner (enters_of_asks asks)

/-! ## What is evaluated -/

/-- While placeholders are filled one after the other from `start`, with `levels` levels of nesting
that may be entered, `q` is filled with the given bindings of the loops around it from `begun`. -/
inductive Evaluates (setup : Setup) :
    (levels : Nat) → (locals : Scope) → (ps : List Placeholder) → (start : Progress) →
      (locals' : Scope) → (q : Placeholder) → (begun : Progress) → Prop
  | here {levels : Nat} {locals : Scope} {p : Placeholder} {later : List Placeholder}
      {start : Progress} : Evaluates setup levels locals (p :: later) start locals p start
  | behind {levels : Nat} {locals locals' : Scope} {p q : Placeholder} {later : List Placeholder}
      {text? : Option Text} {start middle begun : Progress}
      (filled : (placeholder setup (renderWithin setup levels) locals p).run start =
        (.ok text?, middle))
      (evaluated : Evaluates setup levels locals later middle locals' q begun) :
      Evaluates setup levels locals (p :: later) start locals' q begun
  | inside {levels : Nat} {locals locals' locals'' : Scope} {p q : Placeholder}
      {later : List Placeholder} {text : Text} {start inner begun : Progress}
      (enters : Enters setup (renderWithin setup (levels + 1)) locals p start locals' text inner)
      (evaluated : Evaluates setup levels locals' (scan text)
        { inner with trail := .scanned text :: inner.trail } locals'' q begun) :
      Evaluates setup (levels + 1) locals (p :: later) start locals'' q begun

/-! ## What can be evaluated -/

/-- A text that a placeholder can render inside: a part of a block, or an imported text. -/
inductive Brings (setup : Setup) (p : Placeholder) : (text : Text) → Prop
  | enclosed {text : Text} (encloses : Encloses p text) : Brings setup p text
  | imported {root path content : Text} (kind : p.kind = .inclusion)
      (hroot : setup.settings.templateRoot = some root)
      (confined : confinedImport root (importTarget p.directive) = .ok path)
      (loaded : setup.loader root path = .ok content) : Brings setup p content

/-- A pipeline brings no text. -/
theorem not_brings_of_simple (kind : p.kind = .simple) : ¬ Brings setup p text := by
  intro brings
  cases brings with
  | enclosed encloses => cases encloses <;> simp_all
  | imported other => simp [kind] at other

/-- An import brings the text that is loaded. -/
theorem Brings.loaded (brings : Brings setup p text) (kind : p.kind = .inclusion) :
    ∃ root path, setup.settings.templateRoot = some root ∧
      confinedImport root (importTarget p.directive) = .ok path ∧
      setup.loader root path = .ok text := by
  cases brings with
  | enclosed encloses => cases encloses <;> simp_all
  | imported _ hroot confined loaded => exact ⟨_, _, hroot, confined, loaded⟩

/-- The placeholder is one of a list, or it stands in a text that can be rendered inside one of
them, at any depth. -/
inductive Reaches (setup : Setup) : (ps : List Placeholder) → (q : Placeholder) → Prop
  | mem {ps : List Placeholder} {q : Placeholder} (mem : q ∈ ps) : Reaches setup ps q
  | inside {ps : List Placeholder} {p q : Placeholder} {text : Text} (mem : p ∈ ps)
      (brings : Brings setup p text) (reaches : Reaches setup (scan text) q) : Reaches setup ps q

/-- From a lone pipeline nothing else is reached. -/
theorem Reaches.of_simple (reaches : Reaches setup [p] q) (kind : p.kind = .simple) : q = p := by
  cases reaches with
  | mem mem => exact List.mem_singleton.mp mem
  | inside mem brings _ =>
    rw [List.mem_singleton.mp mem] at brings
    exact absurd brings (not_brings_of_simple kind)

/-- From a lone import all is reached that is reached from the text that is loaded. -/
theorem Reaches.of_inclusion {root path content : Text} (reaches : Reaches setup [p] q)
    (kind : p.kind = .inclusion) (hroot : setup.settings.templateRoot = some root)
    (confined : confinedImport root (importTarget p.directive) = .ok path)
    (loaded : setup.loader root path = .ok content) : q = p ∨ Reaches setup (scan content) q := by
  cases reaches with
  | mem mem => exact .inl (List.mem_singleton.mp mem)
  | inside mem brings reaches =>
    rw [List.mem_singleton.mp mem] at brings
    obtain ⟨_, _, hroot', confined', loaded'⟩ := brings.loaded kind
    rw [hroot, Option.some.injEq] at hroot'
    rw [← hroot', confined, Except.ok.injEq] at confined'
    rw [← hroot', ← confined', loaded, Except.ok.injEq] at loaded'
    exact .inr (loaded' ▸ reaches)

/-- A part in two forms that are the same. -/
def Equal (part : Bool → Render α) : Prop := part true = part false

theorem Equal.compositional (setup : Setup) :
    Compositional setup (fun _ : Bool => setup.unvaried) (fun _ => True) Equal where
  pure _ := rfl
  bind first second := congrArg₂ _ first (funext second)
  env _ := rfl
  assign _ _ := rfl
  complain _ _ := rfl
  tested _ := rfl

/-- What is rendered inside a placeholder is a part of it or was imported. -/
theorem Enters.brings (enters : Enters setup nested locals p start locals' text inner) :
    Brings setup p text := by
  by_contra foreign
  obtain ⟨other, same, matters⟩ := enters
  apply matters
  -- both ways to render inside agree on all texts but the foreign one
  have alike {scope content} (brings : Brings setup p content) :
      (other scope content) = (nested scope content) := by
    funext progress
    apply same
    rintro ⟨⟩
    exact foreign brings
  let inside (i : Bool) : Nested := if i then other else nested
  have compositional := Equal.compositional setup
  have equal : Equal fun i => placeholder setup (inside i) locals p := by
    refine compositional.placeholder locals (fun _ _ _ _ => trivial)
      (fun scope content encloses => alike (.enclosed encloses)) fun kind => ?_
    exact compositional.inclusion locals (fun _ => rfl) (fun _ => rfl) (fun _ => rfl)
      fun root path content hroot confined loaded =>
        alike (.imported kind hroot confined loaded)
  exact congrArg (fun part => part.run start) equal

/-- **What is evaluated** stands in the texts that can be rendered. -/
theorem Evaluates.reaches {ps : List Placeholder}
    (h : Evaluates setup levels locals ps start locals' q begun) : Reaches setup ps q := by
  induction h with
  | here => exact .mem (List.mem_cons_self ..)
  | behind _ _ ih =>
    cases ih with
    | mem mem => exact .mem (List.mem_cons_of_mem _ mem)
    | inside mem brings reaches => exact .inside (List.mem_cons_of_mem _ mem) brings reaches
  | inside enters _ ih => exact .inside (List.mem_cons_self ..) enters.brings ih

end Fill

end Stencil
