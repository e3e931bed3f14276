import Stencil.Render.Renderer

/-!
# Running the parts of a render

A render is put together from parts that read and change the progress and may fail. Each of
them is run here on an arbitrary progress, and a sequence of parts stops at the first failure
with the progress made up to there.

## Main definitions

* `Fill.pipeline`: the pipeline of a simple placeholder, with what it can see
* `Fill.ImportCase`: what becomes of the path of an import

## Main results

* `Render.run_bind`: one part after the other
* `Render.run_note`, `Render.run_complain`, `Render.run_assign`, `Render.run_env`: the parts
  that touch the progress
* `Fill.run_simple`: the pipeline of a placeholder
* `Fill.exists_run_isTaken`: a test of a condition
* `Fill.run_inclusion_of_loaded` and its siblings: an import, by what becomes of its path
-/

namespace Stencil

namespace Render

variable {α β : Type} (start : Progress)

@[simp] theorem run_pure (a : α) : (pure a : Render α).run start = (.ok a, start) := rfl

@[simp] theorem run_throw (failure : Failure) :
    (throw failure : Render α).run start = (.error failure, start) := rfl

@[simp] theorem run_monadLift (outcome : Except Failure α) :
    (MonadLiftT.monadLift outcome : Render α).run start = (outcome, start) := rfl

/-- **One part after the other**; a failure ends both. -/
theorem run_bind (part : Render α) (next : α → Render β) :
    (part >>= next).run start =
      match part.run start with
      | (.ok a, middle) => (next a).run middle
      | (.error failure, middle) => (.error failure, middle) := by
  change ExceptT.bindCont next (part.run start).1 (part.run start).2 = _
  rcases part.run start with ⟨_ | _, _⟩ <;> rfl

theorem exists_of_isOk {part : Render α} {start : Progress}
    (h : (part.run start).1.isOk = true) : ∃ a stop, part.run start = (.ok a, stop) := by
  rcases ran : part.run start with ⟨failure | a, stop⟩
  · rw [ran] at h
    cases h
  · exact ⟨a, stop, rfl⟩

@[simp] theorem liftM_ok_bind (a : α) (next : α → Render β) :
    (liftM (Except.ok a : Except Failure α) : Render α) >>= next = next a := rfl

@[simp] theorem liftM_error_bind (failure : Failure) (next : α → Render β) :
    (liftM (Except.error failure : Except Failure α) : Render α) >>= next = throw failure := rfl

@[simp] theorem run_note (event : RenderEvent) :
    (note event).run start = (.ok (), { start with trail := event :: start.trail }) := rfl

@[simp] theorem run_complain (setup : Setup) (placeholder : Text)
    (complaints : List Complaint) :
    (complain setup placeholder complaints).run start =
      (.ok (),
        { start with
          issues := start.issues ++
            if setup.settings.recordIssues then complaints.map (Issue.mk placeholder)
            else [] }) := by
  rw [complain]
  split
  · rfl
  · rw [List.append_nil]
    rfl

@[simp] theorem run_assign (name : Text) (value : Value) :
    (assign name value).run start =
      (.ok (), { start with globals := start.globals.insert name value }) := rfl

@[simp] theorem run_env (setup : Setup) (locals : Scope) :
    (env setup locals).run start = (.ok ⟨locals, start.globals, setup.values⟩, start) := rfl

end Render

/-! ## Pipelines -/

namespace Fill

/-- The pipeline that a simple placeholder stands for, with what it can see. -/
def pipeline (setup : Setup) (locals globals : Scope) : Pipeline :=
  ⟨setup.toSurroundings, setup.registry, ⟨locals, globals, setup.values⟩⟩

/-- **A simple placeholder** shows the value of its pipeline, and the complaints are recorded. -/
theorem run_simple (setup : Setup) (locals : Scope) (start : Progress) (directive : Text) :
    (simple setup locals directive).run start =
      (.ok (((pipeline setup locals start.globals).run directive).1.map Value.display),
        { start with
          issues := start.issues ++
            if setup.settings.recordIssues then
              ((pipeline setup locals start.globals).run directive).2.map (Issue.mk directive)
            else [] }) := by
  simp only [simple, Render.run_bind, Render.run_env, Render.run_complain, pipeline]
  rfl

end Fill

/-! ## Conditions -/

/-- **A test of a condition** only leaves its trace, whatever comes of it. -/
theorem Fill.exists_run_isTaken (setup : Setup) (locals : Scope) (tag : Markup.Tag)
    (start : Progress) :
    ∃ taken trail, (isTaken setup locals tag).run start = (.ok taken, { start with trail }) := by
  rw [isTaken]
  split
  · exact ⟨_, _, rfl⟩
  · exact ⟨_, _, rfl⟩

/-! ## Imports -/

namespace Fill

/-- What becomes of the path of an import. The setup decides it, whatever the progress is. -/
inductive ImportCase (setup : Setup) (directive : Text) : Prop
  /-- There is no directory to import from. -/
  | noRoot (hroot : setup.settings.templateRoot = none)
  /-- The path is turned down before any load. -/
  | refused {root : Text} {failure : Failure} (hroot : setup.settings.templateRoot = some root)
      (refused : confinedImport root (importTarget directive) = .error failure)
  /-- The loader does not return a text. -/
  | failed {root path : Text} {failure : Failure}
      (hroot : setup.settings.templateRoot = some root)
      (confined : confinedImport root (importTarget directive) = .ok path)
      (failed : setup.loader root path = .error failure)
  /-- The loader returns a text, which is rendered. -/
  | loaded {root path content : Text} (hroot : setup.settings.templateRoot = some root)
      (confined : confinedImport root (importTarget directive) = .ok path)
      (loaded : setup.loader root path = .ok content)

theorem importCase (setup : Setup) (directive : Text) : ImportCase setup directive := by
  cases hroot : setup.settings.templateRoot with
  | none => exact .noRoot hroot
  | some root =>
    cases confined : confinedImport root (importTarget directive) with
    | error failure => exact .refused hroot confined
    | ok path =>
      cases loaded : setup.loader root path with
      | error failure => exact .failed hroot confined loaded
      | ok content => exact .loaded hroot confined loaded

section Run

variable {setup : Setup} {nested : Nested} {locals : Scope} {directive root path content : Text}
  {failure : Failure} (start : Progress)

theorem run_inclusion_of_none (noRoot : setup.settings.templateRoot = none) :
    (inclusion setup nested locals directive).run start =
      (.error (.noTemplateRoot (importTarget directive)),
        { start with trail := .importing (importTarget directive) :: start.trail }) := by
  simp only [inclusion, Render.run_bind, Render.run_note, noRoot]
  rfl

variable (hroot : setup.settings.templateRoot = some root)
include hroot

theorem run_inclusion_of_refused
    (refused : confinedImport root (importTarget directive) = .error failure) :
    (inclusion setup nested locals directive).run start =
      (.error failure,
        { start with trail := .importing (importTarget directive) :: start.trail }) := by
  simp only [inclusion, Render.run_bind, Render.run_note, hroot, Render.run_monadLift, refused]

variable (confined : confinedImport root (importTarget directive) = .ok path)
include confined

theorem run_inclusion_of_failed (failed : setup.loader root path = .error failure) :
    (inclusion setup nested locals directive).run start =
      (.error failure,
        { start with
          trail := .loading path :: .importing (importTarget directive) :: start.trail }) := by
  simp only [inclusion, Render.run_bind, Render.run_note, hroot, Render.run_monadLift, confined,
    failed]

/-- **What the loader returned** is rendered after the import and the load. -/
theorem run_inclusion_of_loaded (loaded : setup.loader root path = .ok content) :
    (inclusion setup nested locals directive).run start =
      (nested locals content >>= fun rendered => pure (some rendered.output)).run
        { start with
          trail := .loading path :: .importing (importTarget directive) :: start.trail } := by
  simp only [inclusion, Render.run_bind, Render.run_note, hroot, Render.run_monadLift, confined,
    loaded]

end Run

end Fill

end Stencil
