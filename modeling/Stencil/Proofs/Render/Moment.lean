import Stencil.Proofs.Render.Evaluated

/-!
# Renders at different moments

Only pipelines see the present moment. So a render comes out alike at another moment if every
pipeline shows the same text then that it evaluates on its way: in the template, in the blocks that
are entered, and in imported texts. The complaints about a pipeline hang on its directives and on
whether it has a value, so they are the same as well. A pipeline shows the same text at every moment
if none of its directives looks at the clock.

## Main definitions

* `Setup.at setup clock`, `Pipeline.at pipeline clock`: setups and pipelines at another moment
* `Fill.ShowsSameAt`: a placeholder whose pipeline shows the same text
* `Fill.AllShowSame`, `Fill.Timeless setup clock text`: all pipelines that are evaluated are such
* `Directive.looksAtClock`, `Pipeline.IsClockFree`: directives and pipelines without the clock

## Main results

* `Pipeline.snd_run_at`: the complaints about a pipeline
* `Fill.run_placeholders_at`: placeholders at another moment
* `run_render_at`: a render at another moment
* `Pipeline.run_at`: pipelines that do not look at the clock
* `Fill.timeless_of_reaches`: renders without pipelines that look at the clock
-/

namespace Stencil

open Markup (Placeholder scan)

/-- The setup at another moment. -/
def Setup.at (setup : Setup) (clock : Int) : Setup := { setup with clock }

/-- The pipeline at another moment. -/
def Pipeline.at (pipeline : Pipeline) (clock : Int) : Pipeline := { pipeline with clock }

variable {setup : Setup} {clock : Int} {levels : Nat} {locals : Scope} {nested : Nested}
  {p : Placeholder} {start : Progress} {text : Text}

/-! ## Complaints at another moment -/

namespace Pipeline

variable (pipeline : Pipeline) (clock : Int)

/-- Whether a directive is known hangs on its name alone. -/
theorem isSome_call?_at (invocation : Invocation) (value value' : Value) :
    ((pipeline.at clock).call? invocation value).isSome =
      (pipeline.call? invocation value').isSome := by
  rw [call?, call?]
  cases Directive.ofName? invocation.name with
  | none =>
    rw [Option.isSome_map, Option.isSome_map]
    rfl
  | some directive => rfl

theorem snd_step_at (value value' : Value) (segment : Text) :
    ((pipeline.at clock).step value segment).2 = (pipeline.step value' segment).2 := by
  have known := pipeline.isSome_call?_at clock (Invocation.ofText segment) value value'
  simp only [step]
  generalize (pipeline.at clock).call? (Invocation.ofText segment) value = one at known ⊢
  generalize pipeline.call? (Invocation.ofText segment) value' = other at known ⊢
  rcases one with - | result <;> rcases other with - | result'
  · rfl
  · cases known
  · cases known
  · rfl

theorem snd_steps_at (value value' : Value) (segments : List Text) :
    ((pipeline.at clock).steps value segments).2 = (pipeline.steps value' segments).2 := by
  induction segments generalizing value value' with
  | nil => rfl
  | cons segment rest ih =>
    simp only [steps]
    rw [snd_step_at pipeline clock value value', ih]

/-- A pipeline starts with some value at both moments or at neither. -/
theorem snd_start_at (segment : Text) :
    ((pipeline.at clock).start segment).2 = (pipeline.start segment).2 ∧
      ((pipeline.at clock).start segment).1.isSome = (pipeline.start segment).1.isSome := by
  have env_eq : (pipeline.at clock).env = pipeline.env := rfl
  have known := pipeline.isSome_call?_at clock (Invocation.ofText segment) .null .null
  simp only [start, env_eq]
  cases pipeline.env.lookup.get? segment with
  | some value => exact ⟨rfl, rfl⟩
  | none =>
    by_cases dotted : Path.isDotted segment = true
    · simp only [dotted, if_true, and_self]
    · simp only [dotted]
      generalize (pipeline.at clock).call? (Invocation.ofText segment) .null = one at known ⊢
      generalize pipeline.call? (Invocation.ofText segment) .null = other at known ⊢
      rcases one with - | result <;> rcases other with - | result'
      · exact ⟨rfl, rfl⟩
      · cases known
      · cases known
      · exact ⟨rfl, rfl⟩

/-- **The complaints about a pipeline** are the same at another moment if it has a value at both
moments or at neither. -/
theorem snd_run_at {text : Text}
    (same : ((pipeline.at clock).run text).1.isSome = (pipeline.run text).1.isSome) :
    ((pipeline.at clock).run text).2 = (pipeline.run text).2 := by
  rw [run, run] at same ⊢
  generalize segments text = parts at same ⊢
  cases parts with
  | nil => rfl
  | cons first rest =>
    obtain ⟨complaints_eq, valued⟩ := pipeline.snd_start_at clock first
    simp only [runSegments] at same ⊢
    generalize (pipeline.at clock).start first = one at complaints_eq valued same ⊢
    generalize pipeline.start first = other at complaints_eq valued same ⊢
    rcases one with ⟨- | value, complaints⟩ <;> rcases other with ⟨- | value', complaints'⟩
    · exact complaints_eq
    · cases valued
    · cases valued
    · have more_eq := pipeline.snd_steps_at clock value value' rest
      simp only at complaints_eq same ⊢
      rw [complaints_eq, more_eq]
      by_cases object : ((pipeline.at clock).steps value rest).1.isObject = true <;>
        by_cases object' : (pipeline.steps value' rest).1.isObject = true
      · simp only [object, object', if_true]
      · simp only [object, object', if_true] at same
        cases same
      · simp only [object, object', if_true] at same
        cases same
      · simp [object, object']

end Pipeline

namespace Fill

/-! ## Placeholders at another moment -/

/-- If the placeholder is a pipeline, it shows the same text at the other moment, or no text at
both. -/
def ShowsSameAt (setup : Setup) (clock : Int) (locals globals : Scope) (p : Placeholder) : Prop :=
  p.kind = .simple →
    ((pipeline (setup.at clock) locals globals).run p.directive).1.map Value.display =
      ((pipeline setup locals globals).run p.directive).1.map Value.display

theorem branches_at (directive raw : Text) (tags : List Markup.Tag) :
    branches (setup.at clock) nested locals directive raw tags =
      branches setup nested locals directive raw tags := by
  induction tags with
  | nil => rfl
  | cons tag tags ih =>
    cases tags with
    | nil => rfl
    | cons next rest =>
      simp only [branches, ih]
      rfl

/-- With the same way to render inside, a placeholder sees the moment through its pipeline only. -/
theorem run_placeholder_at (same : ShowsSameAt setup clock locals start.globals p) :
    (placeholder (setup.at clock) nested locals p).run start =
      (placeholder setup nested locals p).run start := by
  rw [placeholder, placeholder]
  cases kind : p.kind with
  | simple =>
    have shown := same kind
    have valued := congrArg Option.isSome shown
    rw [Option.isSome_map, Option.isSome_map] at valued
    have complaints : ((pipeline (setup.at clock) locals start.globals).run p.directive).2 =
        ((pipeline setup locals start.globals).run p.directive).2 :=
      (pipeline setup locals start.globals).snd_run_at clock valued
    simp only [run_simple, shown, complaints]
    rfl
  | assignment => rfl
  | conditional => exact congrArg (fun part => part.run start) (branches_at ..)
  | loop => rfl
  | inclusion => rfl

theorem replacement_at (text? : Option Text) :
    replacement (setup.at clock) p text? = replacement setup p text? :=
  rfl

/-- All pipelines that are evaluated while the placeholders are filled show the same text at the
other moment. -/
def AllShowSame (setup : Setup) (clock : Int) (levels : Nat) (locals : Scope)
    (ps : List Placeholder) (start : Progress) : Prop :=
  ∀ locals' q begun, Evaluates setup levels locals ps start locals' q begun →
    ShowsSameAt setup clock locals' begun.globals q

/-- One placeholder after the other, if what is rendered inside each of them is rendered alike. -/
theorem run_placeholders_at_of_inside {ps : List Placeholder}
    (inside : ∀ start p later, AllShowSame setup clock levels locals (p :: later) start →
      ∀ locals' text inner,
        Enters setup (renderWithin setup levels) locals p start locals' text inner →
          (renderWithin (setup.at clock) levels locals' text).run inner =
            (renderWithin setup levels locals' text).run inner)
    (same : AllShowSame setup clock levels locals ps start) :
    (placeholders (setup.at clock) (renderWithin (setup.at clock) levels) locals ps).run start =
      (placeholders setup (renderWithin setup levels) locals ps).run start := by
  induction ps generalizing start with
  | nil => rw [placeholders, placeholders]
  | cons p later ih =>
    have first : (placeholder (setup.at clock) (renderWithin (setup.at clock) levels) locals p).run
        start = (placeholder setup (renderWithin setup levels) locals p).run start :=
      (run_placeholder_at (same _ _ _ .here)).trans (Enters.congr (inside start p later same))
    rw [placeholders_cons, placeholders_cons, Render.run_bind, Render.run_bind, first]
    rcases filled : (placeholder setup (renderWithin setup levels) locals p).run start with
      ⟨failure | text?, middle⟩
    · rfl
    · have rest := ih fun locals' q begun evaluated =>
        same locals' q begun (.behind filled evaluated)
      simp only [Render.run_bind, rest, replacement_at]

/-- **Placeholders at another moment** are filled alike if all pipelines that are evaluated on the
way show the same text. -/
theorem run_placeholders_at {ps : List Placeholder}
    (same : AllShowSame setup clock levels locals ps start) :
    (placeholders (setup.at clock) (renderWithin (setup.at clock) levels) locals ps).run start =
      (placeholders setup (renderWithin setup levels) locals ps).run start := by
  induction levels generalizing locals ps start with
  | zero => exact run_placeholders_at_of_inside (fun _ _ _ _ _ _ _ _ => rfl) same
  | succ levels deeper =>
    refine run_placeholders_at_of_inside ?_ same
    intro start p later same locals' text inner enters
    have filled := deeper fun locals'' q begun evaluated =>
      same locals'' q begun (.inside enters evaluated)
    simp only [run_renderWithin_succ, resume, Render.run_bind, filled]

/-! ## Renders at another moment -/

/-- All pipelines that a render of the text evaluates show the same text at the other moment. -/
def Timeless (setup : Setup) (clock : Int) (text : Text) : Prop :=
  AllShowSame setup clock setup.settings.maxDepth [] (scan text) { trail := [.scanned text] }

end Fill

/-- **A render at another moment** comes out alike if all that it evaluates does. -/
theorem run_render_at (timeless : Fill.Timeless setup clock text) :
    (render (setup.at clock) text).run {} = (render setup text).run {} := by
  have filled := Fill.run_placeholders_at timeless
  rw [render, render, run_renderWithin_succ, run_renderWithin_succ]
  simp only [Fill.resume, Render.run_bind]
  rw [← filled]
  rfl

/-! ## Pipelines without the clock -/

/-- The directive looks at the present moment: it tells it, or it reads a time of the present
day. -/
def Directive.looksAtClock : Directive → Bool
  | now | today | date | time | dateTime => true
  | _ => false

namespace Pipeline

variable {pipeline : Pipeline}

/-- No part of the pipeline calls a directive that looks at the clock. -/
def IsClockFree (text : Text) : Prop :=
  ∀ segment ∈ segments text,
    (Directive.ofName? (Invocation.ofText segment).name).any Directive.looksAtClock = false

instance (text : Text) : Decidable (IsClockFree text) :=
  inferInstanceAs (Decidable (∀ segment ∈ segments text, _))

theorem call?_at {invocation : Invocation} (value : Value)
    (free : (Directive.ofName? invocation.name).any Directive.looksAtClock = false) :
    (pipeline.at clock).call? invocation value = pipeline.call? invocation value := by
  rw [call?, call?]
  cases named : Directive.ofName? invocation.name with
  | none => rfl
  | some directive =>
    rw [named, Option.any_some] at free
    cases directive with
    | now | today | date | time | dateTime => cases free
    | _ => rfl

theorem start_at {segment : Text}
    (free : (Directive.ofName? (Invocation.ofText segment).name).any Directive.looksAtClock =
      false) :
    (pipeline.at clock).start segment = pipeline.start segment := by
  simp only [start, call?_at _ free]
  rfl

theorem steps_at {segments : List Text} (value : Value)
    (free : ∀ segment ∈ segments,
      (Directive.ofName? (Invocation.ofText segment).name).any Directive.looksAtClock = false) :
    (pipeline.at clock).steps value segments = pipeline.steps value segments := by
  induction segments generalizing value with
  | nil => rfl
  | cons segment rest ih =>
    obtain ⟨here, later⟩ := List.forall_mem_cons.mp free
    simp only [steps, step, call?_at _ here, ih _ later]

/-- **A pipeline without the clock** gives the same value and the same complaints. -/
theorem run_at (pipeline : Pipeline) (clock : Int) {text : Text} (free : IsClockFree text) :
    (pipeline.at clock).run text = pipeline.run text := by
  rw [IsClockFree] at free
  rw [run, run]
  cases split : segments text with
  | nil => rfl
  | cons first rest =>
    rw [split] at free
    obtain ⟨here, later⟩ := List.forall_mem_cons.mp free
    simp only [runSegments, start_at here, steps_at _ later]

end Pipeline

/-- **A render without the clock** is the same at all moments: no pipeline that stands in the
template, or in a text that can be rendered inside it, looks at the clock. -/
theorem Fill.timeless_of_reaches
    (free : ∀ q, Reaches setup (scan text) q → q.kind = .simple →
      Pipeline.IsClockFree q.directive) : Timeless setup clock text := by
  intro locals q begun evaluated kind
  have alike := (pipeline setup locals begun.globals).run_at clock (free q evaluated.reaches kind)
  exact congrArg (fun outcome => outcome.1.map Value.display) alike

end Stencil
