import Stencil.Proofs.Markup.Directive
import Stencil.Proofs.Render.Part
import Stencil.Proofs.Value.Bound

/-!
# Names and assignments

A placeholder that is a name is replaced by the text of its value and leaves the progress as it
is. An assignment sets its name to the value of its expression; a name without any value is null
while the expression is evaluated, and stays null if that fails.

## Main definitions

* `Fill.declared`: the variables while the expression of an assignment is evaluated

## Main results

* `Pipeline.run_of_isWord`: a pipeline that is a name or a path
* `Fill.run_simple_of_isWord`: a placeholder that is a name
* `Fill.run_assignment`: an assignment
-/

namespace Stencil

/-! ## Pipelines of one word -/

namespace Pipeline

variable {word : Text} (h : Path.IsWord word)
include h

theorem segments_of_isWord : segments word = [word] := by
  rw [segments, Text.splitOutside_of_notMem h.isBare.notMem_bar, List.map_singleton,
    Text.trim_of_isTrimmed h.isTrimmed]

/-- **A pipeline that is a name or a path** to which a value is bound. -/
theorem run_of_isWord {pipeline : Pipeline} {value : Value}
    (bound : pipeline.env.lookup.get? word = some value) (scalar : value.isObject = false) :
    pipeline.run word = (some value, []) := by
  rw [run, segments_of_isWord h, runSegments, start, bound]
  simp only [steps, scalar]
  rfl

end Pipeline

/-! ## Placeholders that are names -/

namespace Fill

variable {setup : Setup} {locals : Scope} (start : Progress)

/-- **A placeholder that is a name** is replaced by the text of its value. -/
theorem run_simple_of_isWord {word : Text} {value : Value} (h : Path.IsWord word)
    (bound : (Env.lookup ⟨locals, start.globals, setup.values⟩).get? word = some value)
    (scalar : value.isObject = false) :
    (simple setup locals word).run start = (.ok (some value.display), start) := by
  have ran : (pipeline setup locals start.globals).run word = (some value, []) :=
    Pipeline.run_of_isWord h bound scalar
  rw [run_simple, ran, List.map_nil, ite_self, List.append_nil, Option.map_some]

/-! ## Assignments -/

/-- The variables while the expression of an assignment to `name` is evaluated: a name without
any value is null. -/
def declared (setup : Setup) (locals : Scope) (name : Text) (globals : Scope) : Scope :=
  if ((Env.lookup ⟨locals, globals, setup.values⟩).get? name).isNone then
    globals.insert name .null
  else globals

section Assignment

variable {directive name source : Text}
  (parts : assignmentParts? directive = some (name, source))
include parts

/-- What an assignment does, by what becomes of its expression. -/
theorem run_assignment :
    let globals := declared setup locals name start.globals
    (assignment setup locals directive).run start =
      match Assignment.value (Env.lookup ⟨locals, globals, setup.values⟩) source with
      | .ok value => (.ok (some []), { start with globals := globals.insert name value })
      | .error e =>
        (.ok (some []),
          { start with
            globals := globals
            issues := start.issues ++
              if setup.settings.recordIssues then [⟨directive, .failedAssignment e⟩]
              else [] }) := by
  intro globals
  simp only [assignment, parts, Render.run_bind, Render.run_env]
  by_cases unbound : ((Env.lookup ⟨locals, start.globals, setup.values⟩).get? name).isNone = true
  · have same : globals = start.globals.insert name .null := if_pos unbound
    rw [if_pos unbound]
    simp only [Render.run_assign, Render.run_bind, Render.run_env, ← same]
    cases Assignment.value (Env.lookup ⟨locals, globals, setup.values⟩) source with
    | ok value => rfl
    | error e =>
      simp only [Render.run_bind, Render.run_complain]
      rfl
  · have same : globals = start.globals := if_neg unbound
    rw [if_neg unbound]
    simp only [Render.run_bind, Render.run_env, same]
    cases Assignment.value (Env.lookup ⟨locals, start.globals, setup.values⟩) source with
    | ok value => rfl
    | error e =>
      simp only [Render.run_bind, Render.run_complain]
      rfl

end Assignment

end Fill

end Stencil
