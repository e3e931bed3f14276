import Mathlib.Data.List.Infix
import Stencil.Proofs.Markup.Visit
import Stencil.Proofs.Render.Part

/-!
# Properties of all parts of a render

A render is put together from a few small parts: it reads the scopes, sets variables, records
complaints and tests conditions, and it renders texts inside the template and imports. What
holds of these and of one part after another holds of the whole. The property may compare renders
whose setups vary in what no placeholder can see: the loader, the depth to which blocks may nest,
and whether issues are recorded. It may also hold for some variables only.

## Main definitions

* `Fill.Encloses`: the texts that a block can render
* `Setup.vary`: a setup with another variation of what no placeholder can see
* `Compositional`: a property of the small parts and of one part after another

## Main results

* `Pipeline.run_retuned`: a pipeline does not look at what varies
* `Compositional.placeholders`: what is compositional holds of the placeholders of a text
* `Compositional.renderWithin_succ`: it holds of a render, given the renders inside
-/

namespace Stencil

/-! ## Texts inside a template -/

theorem Text.slice_infix (text : Text) (start stop : Nat) : text.slice start stop <:+: text :=
  (List.drop_suffix ..).isInfix.trans (List.take_prefix ..).isInfix

namespace Fill

/-- The parts of a loop stand in its text. -/
theorem infix_of_loopParts? {raw body : Text} {otherwise : Option Text}
    (h : loopParts? raw = some (body, otherwise)) :
    body <:+: raw ∧ ∀ text, otherwise = some text → text <:+: raw := by
  rw [loopParts?] at h
  split at h
  · next start next rest _ =>
    rw [Option.some.injEq, Prod.mk.injEq] at h
    obtain ⟨rfl, rfl⟩ := h
    refine ⟨Text.slice_infix .., fun text same => ?_⟩
    split at same
    · split at same
      · cases same
        exact Text.slice_infix ..
      · cases same
    · cases same
  · cases h

/-- A text is one of those that a block can render. -/
inductive Encloses (p : Markup.Placeholder) : (text : Text) → Prop
  /-- A branch of a conditional block reaches from its tag up to the next one. -/
  | branch {front rest : List Markup.Tag} {tag next : Markup.Tag} (kind : p.kind = .conditional)
      (found : (Markup.tags p.raw).filter isBranchTag = front ++ tag :: next :: rest)
      (opens : tag.keyword ≠ "endif") : Encloses p (p.raw.slice tag.stop next.start)
  /-- What a loop repeats. -/
  | body {body : Text} {otherwise : Option Text} (kind : p.kind = .loop)
      (parts : loopParts? p.raw = some (body, otherwise)) : Encloses p body
  /-- What stands for a loop without rounds. -/
  | otherwise {body text : Text} (kind : p.kind = .loop)
      (parts : loopParts? p.raw = some (body, some text)) : Encloses p text

/-- What a block can render stands in its text. -/
theorem Encloses.isInfix {p : Markup.Placeholder} {text : Text} (h : Encloses p text) :
    text <:+: p.raw := by
  cases h with
  | branch => exact Text.slice_infix ..
  | body kind parts => exact (infix_of_loopParts? parts).1
  | otherwise kind parts => exact (infix_of_loopParts? parts).2 _ rfl

end Fill

/-! ## Setups that vary in what no placeholder can see -/

/-- The settings with other values for what no placeholder can see. -/
def Settings.retuned (settings : Settings) (recordIssues : Bool) (maxDepth : Nat) : Settings :=
  { settings with recordIssues, maxDepth }

/-- What can vary in a setup without any placeholder seeing it. -/
structure Variation where
  /-- Whether issues are recorded. -/
  recordIssues : Bool
  /-- How deep blocks and imports may nest. -/
  maxDepth : Nat
  /-- Where imported templates come from. -/
  loader : Loader

/-- The setup in a variation. -/
def Setup.vary (setup : Setup) (variation : Variation) : Setup :=
  { setup with
    loader := variation.loader
    settings := setup.settings.retuned variation.recordIssues variation.maxDepth }

/-- The variation that a setup has. -/
def Setup.unvaried (setup : Setup) : Variation :=
  ⟨setup.settings.recordIssues, setup.settings.maxDepth, setup.loader⟩

theorem Setup.vary_unvaried (setup : Setup) : setup.vary setup.unvaried = setup := rfl

namespace Pipeline

variable (pipeline : Pipeline) (recordIssues : Bool) (maxDepth : Nat)

/-- The pipeline with other values for what no placeholder can see. -/
def retuned : Pipeline :=
  { pipeline with settings := pipeline.settings.retuned recordIssues maxDepth }

@[simp] theorem call?_retuned (invocation : Invocation) (value : Value) :
    (pipeline.retuned recordIssues maxDepth).call? invocation value =
      pipeline.call? invocation value := by
  rw [call?, call?]
  cases Directive.ofName? invocation.name with
  | none => rfl
  | some directive => cases directive <;> rfl

@[simp] theorem start_retuned (segment : Text) :
    (pipeline.retuned recordIssues maxDepth).start segment = pipeline.start segment := by
  simp only [start, call?_retuned]
  rfl

@[simp] theorem steps_retuned (value : Value) (segments : List Text) :
    (pipeline.retuned recordIssues maxDepth).steps value segments =
      pipeline.steps value segments := by
  induction segments generalizing value with
  | nil => rfl
  | cons segment rest ih => simp only [steps, step, call?_retuned, ih]

/-- **A pipeline** gives the same value and the same complaints. -/
@[simp] theorem run_retuned (text : Text) :
    (pipeline.retuned recordIssues maxDepth).run text = pipeline.run text := by
  rw [run, run]
  cases segments text with
  | nil => rfl
  | cons first rest => simp only [runSegments, start_retuned, steps_retuned]

end Pipeline

/-! ## Compositional properties -/

/-- A property of parts of a render, each given in all variations of a setup, holds of the small
parts and of one part after another, where variables other than the `settable` ones are not set.
What a text inside the template gives, and what an import does, is left to the property. -/
structure Compositional {ι : Type} (setup : Setup) (variation : ι → Variation)
    (settable : Text → Prop) (P : ∀ {α : Type}, (ι → Render α) → Prop) : Prop where
  pure {α : Type} (a : α) : P fun _ => Pure.pure a
  bind {α β : Type} {part : ι → Render α} {next : ι → α → Render β} (first : P part)
    (second : ∀ a, P fun i => next i a) : P fun i => part i >>= next i
  env (locals : Scope) : P fun i => Render.env (setup.vary (variation i)) locals
  assign {name : Text} (h : settable name) (value : Value) : P fun _ => Render.assign name value
  complain (directive : Text) (complaints : List Complaint) :
    P fun i => Render.complain (setup.vary (variation i)) directive complaints
  tested (condition : Text) : P fun _ => Render.note (.tested condition)

namespace Compositional

variable {ι : Type} {setup : Setup} {variation : ι → Variation} {settable : Text → Prop}
  {P : ∀ {α : Type}, (ι → Render α) → Prop} {nested : ι → Nested} {p : Markup.Placeholder}
  {text : Text}

/-- A part whose value is passed on. -/
theorem returning (h : Compositional setup variation settable P) {α β : Type} {part : ι → Render α}
    (hpart : P part) (f : α → β) : P fun i => part i >>= fun a => Pure.pure (f a) :=
  h.bind hpart fun a => h.pure (f a)

/-- A part that comes before another under a condition only. -/
theorem before (h : Compositional setup variation settable P) {α : Type} {part : ι → Render Unit}
    {next : ι → Render α} {c : Prop} [Decidable c] (first : P part) (later : P next) :
    P fun i => if c then part i >>= fun _ => next i else next i := by
  split
  · exact h.bind first fun _ => later
  · exact later

section Placeholders

variable (h : Compositional setup variation settable P) (locals : Scope)
include h

theorem simple (directive : Text) :
    P fun i => Fill.simple (setup.vary (variation i)) locals directive := by
  refine h.bind (h.env locals) fun env => ?_
  have same (i : ι) : Pipeline.run ⟨(setup.vary (variation i)).toSurroundings,
      (setup.vary (variation i)).registry, env⟩ directive =
        Pipeline.run ⟨setup.toSurroundings, setup.registry, env⟩ directive :=
    Pipeline.run_retuned ⟨setup.toSurroundings, setup.registry, env⟩ _ _ directive
  simp only [same]
  exact h.returning (h.complain directive _) _

theorem assignment {directive : Text}
    (target : ∀ name source, Fill.assignmentParts? directive = some (name, source) →
      settable name) :
    P fun i => Fill.assignment (setup.vary (variation i)) locals directive := by
  simp only [Fill.assignment]
  cases found : Fill.assignmentParts? directive with
  | none => exact h.returning (h.complain directive _) _
  | some parts =>
    obtain ⟨name, source⟩ := parts
    have can := target name source found
    simp only
    refine h.bind (h.env locals) fun env => ?_
    refine h.before (h.assign can .null) ?_
    refine h.bind (h.env locals) fun env => ?_
    cases Assignment.value env.lookup source with
    | ok value => exact h.returning (h.assign can _) _
    | error e => exact h.returning (h.complain directive _) _

theorem isTaken (tag : Markup.Tag) :
    P fun i => Fill.isTaken (setup.vary (variation i)) locals tag := by
  simp only [Fill.isTaken]
  split
  · exact h.pure _
  · exact h.bind (h.tested _) fun _ => h.returning (h.env locals) _

/-- Conditional blocks, given the texts inside them. -/
theorem branches (kind : p.kind = .conditional)
    (inside : ∀ inner, Fill.Encloses p inner → P fun i => nested i locals inner)
    {front tags : List Markup.Tag}
    (found : (Markup.tags p.raw).filter Fill.isBranchTag = front ++ tags) :
    P fun i =>
      Fill.branches (setup.vary (variation i)) (nested i) locals p.directive p.raw tags := by
  induction tags generalizing front with
  | nil => exact h.pure _
  | cons tag tags ih =>
    cases tags with
    | nil => exact h.pure _
    | cons next rest =>
      simp only [Fill.branches]
      split
      · exact h.pure _
      · next opens =>
        -- a failed condition, a false one, and one that is true
        refine h.bind (h.isTaken locals tag) fun taken => ?_
        rcases taken with e | - | -
        · exact h.returning (h.complain p.directive _) _
        · exact ih (found.trans (List.append_cons front tag _))
        · exact h.returning (inside _ (.branch kind found opens)) _

theorem rounds {body : Text} (inside : ∀ locals, P fun i => nested i locals body) (item : Text)
    (length index : Nat) (values : List Value) :
    P fun i => Fill.rounds (nested i) locals item body length index values := by
  induction values generalizing index with
  | nil => exact h.pure _
  | cons value rest ih => exact h.bind (inside _) fun _ => h.returning (ih _) _

/-- Loops, given the texts inside them. -/
theorem loop (kind : p.kind = .loop)
    (inside : ∀ locals inner, Fill.Encloses p inner → P fun i => nested i locals inner) :
    P fun i => Fill.loop (setup.vary (variation i)) (nested i) locals p.directive p.raw := by
  simp only [Fill.loop]
  rcases Fill.loopHead? p.directive with - | ⟨item, list⟩
  · exact h.returning (h.complain p.directive _) _
  cases parts : Fill.loopParts? p.raw with
  | none => exact h.pure _
  | some found =>
    obtain ⟨body, otherwise⟩ := found
    refine h.bind (h.env locals) fun env => ?_
    rcases Fill.loopItems (Path.resolve? env.lookup list) with - | ⟨value, rest⟩
    · rcases otherwise with - | other
      · exact h.pure _
      · exact h.returning (inside _ _ (.otherwise kind parts)) _
    · -- every round has bindings of its own, so the inside is needed for all of them
      exact h.returning (h.rounds locals (fun _ => inside _ _ (.body kind parts)) _ _ _ _) _

/-- Imports, if the loader does not vary and the steps of an import have the property. -/
theorem inclusion (sameLoader : ∀ i, (variation i).loader = setup.loader)
    (throw : ∀ failure, P fun _ => (MonadExcept.throw failure : Render (Option Text)))
    (note : ∀ event, P fun _ => Render.note event) {directive : Text}
    (inside : ∀ root path content, setup.settings.templateRoot = some root →
      confinedImport root (Fill.importTarget directive) = .ok path →
      setup.loader root path = .ok content → P fun i => nested i locals content) :
    P fun i => Fill.inclusion (setup.vary (variation i)) (nested i) locals directive := by
  have root (i : ι) : (setup.vary (variation i)).settings.templateRoot =
      setup.settings.templateRoot := rfl
  have loader (i : ι) : (setup.vary (variation i)).loader = setup.loader := sameLoader i
  simp only [Fill.inclusion, root, loader]
  refine h.bind (note _) fun _ => ?_
  cases hroot : setup.settings.templateRoot with
  | none => exact throw _
  | some root =>
    cases confined : confinedImport root (Fill.importTarget directive) with
    | error failure =>
      simp only [confined, Render.liftM_error_bind]
      exact throw failure
    | ok path =>
      simp only [confined, Render.liftM_ok_bind]
      refine h.bind (note (.loading path)) fun _ => ?_
      cases loaded : setup.loader root path with
      | error failure =>
        simp only [Render.liftM_error_bind]
        exact throw failure
      | ok content =>
        simp only [Render.liftM_ok_bind]
        exact h.returning (inside root path content hroot confined loaded) _

/-- A placeholder, given the texts inside it and imports. -/
theorem placeholder
    (target : ∀ name source, p.kind = .assignment →
      Fill.assignmentParts? p.directive = some (name, source) → settable name)
    (inside : ∀ locals inner, Fill.Encloses p inner → P fun i => nested i locals inner)
    (inclusion : p.kind = .inclusion →
      P fun i => Fill.inclusion (setup.vary (variation i)) (nested i) locals p.directive) :
    P fun i => Fill.placeholder (setup.vary (variation i)) (nested i) locals p := by
  simp only [Fill.placeholder]
  cases kind : p.kind with
  | simple => exact h.simple locals p.directive
  | assignment => exact h.assignment locals fun name source => target name source kind
  | conditional => exact h.branches locals kind (inside locals) (List.nil_append _).symm
  | loop => exact h.loop locals kind inside
  | inclusion => exact inclusion kind

/-- Placeholders that all have the property. -/
theorem placeholders {ps : List Markup.Placeholder}
    (all : ∀ p ∈ ps, P fun i => Fill.placeholder (setup.vary (variation i)) (nested i) locals p) :
    P fun i => Fill.placeholders (setup.vary (variation i)) (nested i) locals ps := by
  induction ps with
  | nil => exact h.pure _
  | cons first rest ih =>
    obtain ⟨here, all⟩ := List.forall_mem_cons.mp all
    refine h.bind here fun text? => h.bind (ih all) fun found => ?_
    have same (i : ι) : (setup.vary (variation i)).settings.fallback =
      setup.settings.fallback := rfl
    simp only [same]
    split <;> exact h.pure _

/-- **A render of a text** at one level more, given its placeholders. -/
theorem renderWithin_succ (levels : ι → Nat) (scanned : P fun _ => Render.note (.scanned text))
    (all : ∀ p ∈ Markup.scan text, P fun i => Fill.placeholder (setup.vary (variation i))
      (renderWithin (setup.vary (variation i)) (levels i)) locals p) :
    P fun i => renderWithin (setup.vary (variation i)) (levels i + 1) locals text :=
  h.bind scanned fun _ => h.returning (h.placeholders locals all) _

end Placeholders

end Compositional

end Stencil
