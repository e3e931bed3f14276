import Stencil.Proofs.Render.Outcome
import Stencil.Proofs.Value.Order

/-!
# Renders search the supplied values only

No part of a render looks at the supplied values otherwise than by a search for a name: not the
names and paths of pipelines, conditions and assignments, not the directives, and not the lists of
loops. Supplied values that answer all searches alike are rendered alike, so the order in which
distinct values are supplied does not matter.

## Main definitions

* `Setup.supplied`: a setup with other supplied values
* `Session.SameOutcome`: two renders with the same result, issues, variables and replacements

## Main results

* `Pipeline.run_supplied`: a pipeline only searches the supplied values
* `renderWithin_supplied`: so does a render
* `Session.render_of_perm`: the order of distinct values does not matter
-/

namespace Stencil

/-! ## Searches -/

/-- Scopes that answer all searches alike can stand for each other behind other scopes. -/
theorem Env.lookup_congr {values others : Scope} (same : values.lookup = others.lookup)
    (locals globals : Scope) :
    Env.lookup ⟨locals, globals, values⟩ = Env.lookup ⟨locals, globals, others⟩ := by
  have exact (name : Text) : Bindings.get? values name = Bindings.get? others name :=
    congrFun (congrArg Lookup.get? same) name
  have inexact (name : Text) : values.object? name = others.object? name :=
    congrFun (congrArg Lookup.object? same) name
  simp only [Env.lookup, layers, List.findSome?_cons, exact, inexact]

/-! ## Pipelines -/

/-- A directive only searches the supplied values. -/
theorem Directive.apply_supplied {surroundings : Surroundings} {values : Scope}
    (same : values.lookup = surroundings.values.lookup) (directive : Directive) (value : Value)
    (arguments : Arguments) :
    directive.apply { surroundings with values } value arguments =
      directive.apply surroundings value arguments := by
  cases directive with
  | concat =>
    cases arguments with
    | nil => rfl
    | cons argument rest => simp only [apply, namedText, same]
  | _ => rfl

namespace Pipeline

variable {pipeline : Pipeline} {values : Scope} {env : Env}
  (same : values.lookup = pipeline.values.lookup) (seen : env.lookup = pipeline.env.lookup)
include same

theorem call?_supplied (invocation : Invocation) (value : Value) :
    call? { pipeline with values, env } invocation value = pipeline.call? invocation value := by
  rw [call?, call?]
  cases Directive.ofName? invocation.name with
  | none => rfl
  | some directive =>
    exact congrArg some (Directive.apply_supplied same directive value _)

theorem steps_supplied (value : Value) (segments : List Text) :
    steps { pipeline with values, env } value segments = pipeline.steps value segments := by
  induction segments generalizing value with
  | nil => rfl
  | cons segment rest ih => simp only [steps, step, call?_supplied same, ih]

include seen

theorem start_supplied (segment : Text) :
    start { pipeline with values, env } segment = pipeline.start segment := by
  simp only [start, call?_supplied same, seen]

/-- **A pipeline** only searches the supplied values. -/
theorem run_supplied (text : Text) :
    run { pipeline with values, env } text = pipeline.run text := by
  rw [run, run]
  cases segments text with
  | nil => rfl
  | cons first rest => simp only [runSegments, start_supplied same seen, steps_supplied same]

end Pipeline

/-! ## Renders -/

/-- The setup with other supplied values. -/
def Setup.supplied (setup : Setup) (values : Scope) : Setup := { setup with values }

section

variable {setup : Setup} {values : Scope} (same : values.lookup = setup.values.lookup)
  (nested : Nested) (locals : Scope)

/-- What is done with the names that a placeholder can see. -/
theorem Render.env_bind_congr {α : Type} {next next' : Env → Render α}
    (h : ∀ globals, next ⟨locals, globals, values⟩ = next' ⟨locals, globals, setup.values⟩) :
    Render.env (setup.supplied values) locals >>= next = Render.env setup locals >>= next' := by
  funext start
  change (Render.env (setup.supplied values) locals >>= next).run start =
    (Render.env setup locals >>= next').run start
  rw [run_bind, run_bind, run_env, run_env]
  exact congrFun (h start.globals) start

namespace Fill

include same

theorem simple_supplied (directive : Text) :
    simple (setup.supplied values) locals directive = simple setup locals directive := by
  refine Render.env_bind_congr locals fun globals => ?_
  let pipeline : Pipeline := ⟨setup.toSurroundings, setup.registry, ⟨locals, globals, setup.values⟩⟩
  have run : Pipeline.run ⟨(setup.supplied values).toSurroundings,
      (setup.supplied values).registry, ⟨locals, globals, values⟩⟩ directive =
        pipeline.run directive :=
    @Pipeline.run_supplied pipeline values ⟨locals, globals, values⟩ same
      (Env.lookup_congr same locals globals) directive
  rw [run]
  rfl

theorem assignment_supplied (directive : Text) :
    assignment (setup.supplied values) locals directive = assignment setup locals directive := by
  simp only [assignment]
  cases assignmentParts? directive with
  | none => rfl
  | some parts =>
    refine Render.env_bind_congr locals fun globals => ?_
    rw [Env.lookup_congr same]
    split
    · refine bind_congr fun _ => Render.env_bind_congr locals fun globals => ?_
      rw [Env.lookup_congr same]
      rfl
    · refine Render.env_bind_congr locals fun globals => ?_
      rw [Env.lookup_congr same]
      rfl

theorem isTaken_supplied (tag : Markup.Tag) :
    isTaken (setup.supplied values) locals tag = isTaken setup locals tag := by
  simp only [isTaken]
  split
  · rfl
  · refine bind_congr fun _ => Render.env_bind_congr locals fun globals => ?_
    rw [Env.lookup_congr same]

theorem branches_supplied (directive raw : Text) (tags : List Markup.Tag) :
    branches (setup.supplied values) nested locals directive raw tags =
      branches setup nested locals directive raw tags := by
  fun_induction branches setup nested locals directive raw tags with
  | case1 tag next rest closes => rw [branches, if_pos closes]
  | case2 tag next rest opens ih =>
    rw [branches, if_neg opens, isTaken_supplied same, ih]
    rfl
  | case3 tags short => rw [branches]; exact short

theorem loop_supplied (directive raw : Text) :
    loop (setup.supplied values) nested locals directive raw =
      loop setup nested locals directive raw := by
  simp only [loop]
  cases loopHead? directive with
  | none => rfl
  | some head =>
    cases loopParts? raw with
    | none => rfl
    | some parts =>
      refine Render.env_bind_congr locals fun globals => ?_
      rw [Env.lookup_congr same]

theorem placeholder_supplied (p : Markup.Placeholder) :
    placeholder (setup.supplied values) nested locals p = placeholder setup nested locals p := by
  simp only [placeholder]
  cases p.kind with
  | simple => exact simple_supplied same locals p.directive
  | assignment => exact assignment_supplied same locals p.directive
  | conditional => exact branches_supplied same nested locals p.directive p.raw _
  | loop => exact loop_supplied same nested locals p.directive p.raw
  | inclusion => rfl

theorem placeholders_supplied (ps : List Markup.Placeholder) :
    placeholders (setup.supplied values) nested locals ps = placeholders setup nested locals ps := by
  induction ps with
  | nil => rfl
  | cons first rest ih =>
    simp only [placeholders, placeholder_supplied same, ih]
    rfl

end Fill

include same in
/-- **A render only searches the supplied values.** -/
theorem renderWithin_supplied (levels : Nat) :
    renderWithin (setup.supplied values) levels = renderWithin setup levels := by
  induction levels with
  | zero => rfl
  | succ levels ih =>
    funext locals text
    simp only [renderWithin, ih, Fill.placeholders_supplied same]

end

/-! ## Values in another order -/

namespace Session

/-- Two renders give the same output or failure, and leave the same variables, issues and
replacements. -/
structure SameOutcome (one other : Except Failure Text × Session) : Prop where
  result : one.1 = other.1
  globals : one.2.globals = other.2.globals
  issues : one.2.issues = other.2.issues
  replacements : one.2.snapshot.map Snapshot.replacements =
    other.2.snapshot.map Snapshot.replacements

/-- The values that were supplied are kept in the snapshot, and matter to nothing else. -/
theorem sameOutcome_finish (session : Session) (text : Text) (values others : Values)
    (outcome : Except Failure Rendered × Progress) :
    SameOutcome (session.finish text values outcome) (session.finish text others outcome) := by
  rcases outcome with ⟨failure | rendered, progress⟩
  · exact ⟨rfl, rfl, rfl, rfl⟩
  · exact ⟨rfl, rfl, rfl, rfl⟩

variable {values others : Values}

/-- Values that answer all searches alike. -/
theorem renderKeeping_of_lookup (session : Session) (clock : Int) (text : Text)
    (same : (Scope.ofValues values).lookup = (Scope.ofValues others).lookup) :
    SameOutcome (session.renderKeeping clock text values)
      (session.renderKeeping clock text others) := by
  have setups : session.setup clock values =
      (session.setup clock others).supplied (Scope.ofValues values) := rfl
  rw [renderKeeping_eq_finish, renderKeeping_eq_finish, setups, Stencil.render, Stencil.render,
    renderWithin_supplied (show _ = (session.setup clock others).values.lookup from same)]
  exact sameOutcome_finish ..

/-- **The order of supplied values does not matter.** If no two values are stored under one name,
then every template is rendered alike with these values in any other order: with the same output or
the same failure, the same variables, the same issues, and the same replacements. This holds of
renders that start without variables, and of those that start with the variables of the render
before. -/
theorem render_of_perm (session : Session) (clock : Int) (text : Text) (perm : values.Perm others)
    (distinct : values.Distinct) :
    SameOutcome (session.render clock text values) (session.render clock text others) ∧
      SameOutcome (session.renderKeeping clock text values)
        (session.renderKeeping clock text others) := by
  have same := Scope.lookup_ofValues_of_perm perm distinct
  exact ⟨renderKeeping_of_lookup _ clock text same, renderKeeping_of_lookup _ clock text same⟩

/-- Objects are found without regard to letter case, one of them under the name of its type and by a
directive. -/
theorem render_of_perm_of_objects :
    let values : Values :=
      [("User".toList, .object none [("name".toList, .text "Ada")]), ("ok".toList, .bool true),
        ("2".toList, .object (some "City".toList) [("name".toList, .text "Rome")])]
    let session : Session := { loader := Loader.ofTemplates [] }
    let text := Markup.opening ++ "USER.name | concat(City.name)".toList ++ Markup.closing
    values.Distinct ∧
      SameOutcome (session.render 0 text values) (session.render 0 text values.reverse) ∧
      (session.render 0 text values.reverse).1 = .ok "Ada Rome".toList := by
  intro values session text
  have distinct : values.Distinct := by decide +kernel
  have alike := render_of_perm session 0 text (List.reverse_perm values).symm distinct
  exact ⟨distinct, alike.1, by decide +kernel⟩

end Session

end Stencil
