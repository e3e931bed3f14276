import Mathlib.Tactic.Choose
import Stencil.Proofs.Render.Compositional

/-!
# Renders do not read what they record

Issues and events are recorded on the way through a render, but no part of a render reads
them: what it returns, what it sets, and what it adds to the issues follow from the variables
at its start. Nor does it matter for the rest whether issues are recorded at all.

## Main definitions

* `Account`: what a part of a render does, given the variables at its start
* `Setup.recording`: a setup in which issues are recorded or not
* `Oblivious`: a part of a render has an account

## Main results

* `Oblivious.bind`: one part after the other
* `Oblivious.compositional`: what holds of the parts of a render holds of the whole
* `oblivious_render`: a whole render is oblivious
-/

namespace Stencil

/-! ## Accounts -/

/-- What a part of a render does. -/
structure Account (α : Type) where
  /-- What it returns, or how it fails. -/
  result : Except Failure α
  /-- The variables at its end. -/
  globals : Scope
  /-- The issues that arise. -/
  issues : List Issue := []
  /-- The events, the latest first. -/
  trail : List RenderEvent := []

namespace Account

variable {α β : Type}

/-- The account of a part without issues and events. -/
def quiet (result : Except Failure α) (globals : Scope) : Account α := { result, globals }

/-- One part after the other. -/
def bind (account : Account α) (next : α → Scope → Account β) : Account β :=
  match account.result with
  | .error failure => { account with result := .error failure }
  | .ok a =>
    let later := next a account.globals
    { later with
      issues := account.issues ++ later.issues
      trail := later.trail ++ account.trail }

/-- What becomes of a progress, where issues are recorded or not. -/
def apply (account : Account α) (record : Bool) (start : Progress) :
    Except Failure α × Progress :=
  (account.result,
    { globals := account.globals
      issues := start.issues ++ if record then account.issues else []
      trail := account.trail ++ start.trail })

@[simp] theorem apply_quiet (result : Except Failure α) (record : Bool) (start : Progress) :
    (quiet result start.globals).apply record start = (result, start) := by
  cases record <;> simp [quiet, apply]

theorem apply_bind (account : Account α) (next : α → Scope → Account β) (record : Bool)
    (start : Progress) :
    (account.bind next).apply record start =
      match account.apply record start with
      | (.ok a, middle) => (next a middle.globals).apply record middle
      | (.error failure, middle) => (.error failure, middle) := by
  obtain ⟨result | a, globals, issues, trail⟩ := account
  · rfl
  · cases record <;> simp [bind, apply]

end Account

/-! ## Setups that differ in whether they record -/

/-- The settings with issues recorded or not. -/
def Settings.recording (settings : Settings) (record : Bool) : Settings :=
  { settings with recordIssues := record }

/-- The setup with issues recorded or not. -/
def Setup.recording (setup : Setup) (record : Bool) : Setup :=
  { setup with settings := setup.settings.recording record }

@[simp] theorem Setup.recordIssues_recording (setup : Setup) (record : Bool) :
    (setup.recording record).settings.recordIssues = record := rfl

/-! ## Oblivious parts -/

/-- A part of a render, given with issues recorded or not, has an account: it reads nothing
but the variables, and adds the same issues and events whatever came before. -/
def Oblivious {α : Type} (part : Bool → Render α) : Prop :=
  ∃ account : Scope → Account α,
    ∀ record start, (part record).run start = (account start.globals).apply record start

namespace Oblivious

variable {α β : Type}

theorem pure (a : α) : Oblivious fun _ => (Pure.pure a : Render α) := by
  refine ⟨fun globals => .quiet (.ok a) globals, fun record start => ?_⟩
  rw [Account.apply_quiet, Render.run_pure]

theorem throw (failure : Failure) :
    Oblivious fun _ => (MonadExcept.throw failure : Render α) := by
  refine ⟨fun globals => .quiet (.error failure) globals, fun record start => ?_⟩
  rw [Account.apply_quiet, Render.run_throw]

/-- **One part after the other.** -/
theorem bind {part : Bool → Render α} {next : Bool → α → Render β} (first : Oblivious part)
    (second : ∀ a, Oblivious fun record => next record a) :
    Oblivious fun record => part record >>= next record := by
  obtain ⟨account, first⟩ := first
  choose later second using second
  refine ⟨fun globals => (account globals).bind later, fun record start => ?_⟩
  rw [Account.apply_bind, Render.run_bind, first]
  rcases (account start.globals).apply record start with ⟨failure | a, middle⟩
  · rfl
  · exact second a record middle

theorem note (event : RenderEvent) : Oblivious fun _ => Render.note event := by
  refine ⟨fun globals => { result := .ok (), globals, trail := [event] }, fun record start => ?_⟩
  rw [Render.run_note]
  cases record <;> simp [Account.apply]

theorem assign (name : Text) (value : Value) :
    Oblivious fun _ => Render.assign name value := by
  refine ⟨fun globals => .quiet (.ok ()) (globals.insert name value), fun record start => ?_⟩
  rw [Render.run_assign]
  cases record <;> simp [Account.apply, Account.quiet]

variable (setup : Setup)

theorem env (locals : Scope) :
    Oblivious fun record => Render.env (setup.recording record) locals := by
  refine ⟨fun globals => .quiet (.ok ⟨locals, globals, setup.values⟩) globals,
    fun record start => ?_⟩
  rw [Account.apply_quiet, Render.run_env]
  rfl

/-- Complaints are the only place where it matters whether issues are recorded. -/
theorem complain (placeholder : Text) (complaints : List Complaint) :
    Oblivious fun record =>
      Render.complain (setup.recording record) placeholder complaints := by
  refine ⟨fun globals =>
    { result := .ok (), globals, issues := complaints.map (Issue.mk placeholder) },
    fun record start => ?_⟩
  rw [Render.run_complain, Setup.recordIssues_recording]
  rfl

/-- Whether issues are recorded, as a variation of the setup. -/
def recordings (record : Bool) : Variation := ⟨record, setup.settings.maxDepth, setup.loader⟩

theorem compositional :
    Compositional setup (recordings setup) (fun _ => True) Oblivious where
  pure := pure
  bind := bind
  env := env setup
  assign _ := assign _
  complain := complain setup
  tested condition := note (.tested condition)

end Oblivious

/-! ## Whole renders -/

/-- How texts inside a template are rendered is oblivious. -/
def Nested.Oblivious (nested : Bool → Nested) : Prop :=
  ∀ locals text, Stencil.Oblivious fun record => nested record locals text

section

variable (setup : Setup) {nested : Bool → Nested} (locals : Scope)

theorem Fill.oblivious_inclusion (h : Nested.Oblivious nested) (directive : Text) :
    Oblivious fun record =>
      inclusion (setup.recording record) (nested record) locals directive :=
  (Oblivious.compositional setup).inclusion locals (fun _ => rfl) Oblivious.throw Oblivious.note
    fun _ _ content _ _ _ => h locals content

theorem Fill.oblivious_placeholder (h : Nested.Oblivious nested) (p : Markup.Placeholder) :
    Oblivious fun record => placeholder (setup.recording record) (nested record) locals p :=
  (Oblivious.compositional setup).placeholder locals (fun _ _ _ _ => trivial)
    (fun locals inner _ => h locals inner)
    fun _ => oblivious_inclusion setup locals h p.directive

/-- **The placeholders of a text** are filled obliviously if nested texts are rendered so. -/
theorem Fill.oblivious_placeholders (h : Nested.Oblivious nested) (text : Text) :
    Oblivious fun record =>
      placeholders (setup.recording record) (nested record) locals (Markup.scan text) :=
  (Oblivious.compositional setup).placeholders locals fun p _ =>
    oblivious_placeholder setup locals h p

end

/-- A render at any number of levels is oblivious. -/
theorem oblivious_renderWithin (setup : Setup) (levels : Nat) :
    Nested.Oblivious fun record => renderWithin (setup.recording record) levels := by
  induction levels with
  | zero =>
    intro locals text
    exact Oblivious.throw (.tooDeep setup.settings.maxDepth)
  | succ levels ih =>
    intro locals text
    exact (Oblivious.compositional setup).renderWithin_succ locals (fun _ => levels)
      (Oblivious.note _) fun p _ => Fill.oblivious_placeholder setup locals ih p

/-- **A render is oblivious.** -/
theorem oblivious_render (setup : Setup) (text : Text) :
    Oblivious fun record => render (setup.recording record) text :=
  oblivious_renderWithin setup (setup.settings.maxDepth + 1) [] text

end Stencil
