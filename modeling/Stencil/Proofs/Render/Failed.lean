import Stencil.Proofs.Render.Assigned
import Stencil.Render.Session

/-!
# Assignments that fail

An assignment that is not written as one, or whose expression has no value, is reported and sets
nothing. Before its expression is evaluated a name without any value is declared as null, so that
sums can start from nothing, and this is not taken back: a search for exactly this name finds null
from then on. No other search finds anything else than before, and a name that had a value keeps
it.

## Main results

* `Fill.run_malformed`, `Fill.run_failed`: what a failed assignment does
* `Fill.lookup_declared`: what is found behind it
* `Fill.failed_assignment`: a failed assignment leaves no trace but null under a name without value
-/

namespace Stencil

open Markup (Placeholder)

namespace Fill

variable {setup : Setup} {locals : Scope} {p : Placeholder} (kind : p.kind = .assignment)
  (nested : Nested) (start : Progress)

/-- The issues that are recorded about a placeholder with one complaint. -/
def reported (setup : Setup) (directive : Text) (complaint : Complaint) : List Issue :=
  if setup.settings.recordIssues then [⟨directive, complaint⟩] else []

section

include kind

/-- **An assignment that is not written as one** is reported, and that is all. -/
theorem run_malformed (malformed : assignmentParts? p.directive = none) :
    (placeholder setup nested locals p).run start =
      (.ok (some []),
        { start with
          issues := start.issues ++ reported setup p.directive .malformedAssignment }) := by
  rw [placeholder, kind]
  simp only [assignment, malformed, Render.run_bind, Render.run_complain]
  rfl

/-- **An assignment without a value** is reported, and its name is declared. -/
theorem run_failed {name source : Text} {e : ExprError}
    (parts : assignmentParts? p.directive = some (name, source))
    (fails : Assignment.value
      (Env.lookup ⟨locals, declared setup locals name start.globals, setup.values⟩) source =
        .error e) :
    (placeholder setup nested locals p).run start =
      (.ok (some []),
        { start with
          globals := declared setup locals name start.globals
          issues := start.issues ++ reported setup p.directive (.failedAssignment e) }) := by
  have ran : (assignment setup locals p.directive).run start = _ := run_assignment start parts
  rw [placeholder, kind]
  exact ran.trans (by rw [fails]; rfl)

end

/-! ## What is found behind a declaration -/

section Declared

variable {name : Text} {globals : Scope}

theorem declared_of_bound
    (bound : (Env.lookup ⟨locals, globals, setup.values⟩).get? name ≠ none) :
    declared setup locals name globals = globals := by
  rw [declared, if_neg]
  rwa [Option.isNone_iff_eq_none]

/-- A name without a value is added as null. -/
theorem adds_declared (free : (Env.lookup ⟨locals, globals, setup.values⟩).get? name = none) :
    Lookup.Adds (Env.lookup ⟨locals, globals, setup.values⟩)
      (Env.lookup ⟨locals, declared setup locals name globals, setup.values⟩) name .null := by
  rw [declared, if_pos (Option.isNone_iff_eq_none.mpr free)]
  exact Env.adds_insert free rfl

/-- **What is found behind a declaration** is what was found before, except for the name itself,
which has a value from then on. -/
theorem lookup_declared :
    let before := Env.lookup ⟨locals, globals, setup.values⟩
    let behind := Env.lookup ⟨locals, declared setup locals name globals, setup.values⟩
    (∀ key, behind.object? key = before.object? key) ∧
    (∀ key, key ≠ name →
      behind.get? key = before.get? key ∧ Path.resolve? behind key = Path.resolve? before key) ∧
    behind.get? name = some ((before.get? name).getD .null) ∧
    (behind = before ↔ before.get? name ≠ none) := by
  intro before behind
  by_cases free : before.get? name = none
  · have adds : Lookup.Adds before behind name .null := adds_declared free
    have found : behind.get? name = some .null := (adds.get?_eq name).trans (if_pos rfl)
    refine ⟨adds.object?_eq, ?others, ?own, ?traceless⟩
    case others =>
      intro key other
      exact ⟨(adds.get?_eq key).trans (if_neg other), (adds.resolve?_eq key).trans (if_neg other)⟩
    case own => rw [found, free]; rfl
    case traceless =>
      refine iff_of_false ?_ (not_not.mpr free)
      intro same
      rw [same, free] at found
      cases found
  · have same : behind = before := by
      change Env.lookup ⟨locals, declared setup locals name globals, setup.values⟩ = before
      rw [declared_of_bound free]
    rw [same]
    obtain ⟨value, bound⟩ := Option.ne_none_iff_exists'.mp free
    exact ⟨fun _ => rfl, fun _ _ => ⟨rfl, rfl⟩, by rw [bound]; rfl, iff_of_true rfl free⟩

end Declared

/-- **A failed assignment leaves no trace but null.** Behind it all objects and all other names and
paths are found as before. A name that had a value keeps it, and then every search finds what it
found before; a name without any value is null, so its placeholder shows nothing. Besides that, only
the issues have grown. -/
theorem failed_assignment {name source : Text} {e : ExprError} (kind : p.kind = .assignment)
    (parts : assignmentParts? p.directive = some (name, source))
    (fails : Assignment.value
      (Env.lookup ⟨locals, declared setup locals name start.globals, setup.values⟩) source =
        .error e) :
    ∃ stop, (placeholder setup nested locals p).run start = (.ok (some []), stop) ∧
      stop.issues = start.issues ++ reported setup p.directive (.failedAssignment e) ∧
      stop.trail = start.trail ∧
      let before := Env.lookup ⟨locals, start.globals, setup.values⟩
      let behind := Env.lookup ⟨locals, stop.globals, setup.values⟩
      (∀ key, behind.object? key = before.object? key) ∧
      (∀ key, key ≠ name →
        behind.get? key = before.get? key ∧ Path.resolve? behind key = Path.resolve? before key) ∧
      behind.get? name = some ((before.get? name).getD .null) ∧
      (behind = before ↔ before.get? name ≠ none) ∧
      (before.get? name = none → (simple setup locals name).run stop = (.ok (some []), stop)) := by
  refine ⟨_, run_failed kind nested start parts fails, rfl, rfl, ?_⟩
  intro before behind
  obtain ⟨objects, others, own, traceless⟩ := @lookup_declared setup locals name start.globals
  refine ⟨objects, others, own, traceless, fun free => ?_⟩
  have word : Path.IsWord name :=
    Path.isWord_of_isIdentifier (isIdentifier_of_assignmentParts? parts)
  have null : behind.get? name = some .null := by
    rw [own, free]
    rfl
  exact run_simple_of_isWord _ word null rfl

/-- A copy of an unknown name fails, and the variable behind the loop around it keeps its value. -/
theorem failed_assignment_of_bound :
    let setup : Setup := ⟨⟨{}, [], 0⟩, {}, Loader.ofTemplates []⟩
    let raw : Text := Markup.opening ++ " set x = y ".toList ++ Markup.closing
    let p : Placeholder := ⟨⟨raw, "set x = y", .assignment⟩, 0⟩
    let locals : Scope := [("item", .text "a")]
    let start : Progress := { globals := [("x", .number (Number.ofNat 2))] }
    let error : ExprError := .undefinedVariable "y"
    Markup.scan raw = [p] ∧
    assignmentParts? p.directive = some ("x".toList, "y".toList) ∧
    Assignment.value
      (Env.lookup ⟨locals, declared setup locals "x" start.globals, setup.values⟩) "y" =
        .error error ∧
    ∃ stop, (placeholder setup (renderWithin setup 0) locals p).run start = (.ok (some []), stop) ∧
      stop.issues = [⟨p.directive, .failedAssignment error⟩] ∧
      Env.lookup ⟨locals, stop.globals, setup.values⟩ =
        Env.lookup ⟨locals, start.globals, setup.values⟩ := by
  intro setup raw p locals start error
  have parts : assignmentParts? p.directive = some ("x".toList, "y".toList) := by decide +kernel
  have fails : Assignment.value
      (Env.lookup ⟨locals, declared setup locals "x" start.globals, setup.values⟩) "y" =
        .error error :=
    Assignment.value_of_unknown (by decide +kernel) _ (by decide) rfl rfl
  obtain ⟨stop, ran, issues, -, -, -, -, traceless, -⟩ :=
    failed_assignment (renderWithin setup 0) start rfl parts fails
  have bound : (Env.lookup ⟨locals, start.globals, setup.values⟩).get? "x" ≠ none :=
    Option.some_ne_none _
  exact ⟨by decide +kernel, parts, fails, stop, ran, issues, traceless.mpr bound⟩

/-- A failed assignment to a name without any value is seen behind it: nothing is found under the
name before and null behind, and the placeholder of the name is left open before and shows nothing
behind. -/
theorem failed_assignment_declares_name :
    let tag (inner : String) : Text := Markup.opening ++ inner.toList ++ Markup.closing
    let setup : Setup := ⟨⟨{}, [], 0⟩, {}, Loader.ofTemplates []⟩
    let p : Placeholder := ⟨⟨tag " set x = y ", "set x = y", .assignment⟩, 0⟩
    let session : Session := { loader := Loader.ofTemplates [] }
    Assignment.value (Env.lookup ⟨[], declared setup [] "x" [], setup.values⟩) "y" =
        .error (.undefinedVariable "y") ∧
      (∃ stop, (placeholder setup (renderWithin setup 0) [] p).run {} = (.ok (some []), stop) ∧
        (Env.lookup ⟨[], [], setup.values⟩).get? "x" = none ∧
        (Env.lookup ⟨[], stop.globals, setup.values⟩).get? "x" = some .null) ∧
      (session.render 0 (tag " x ") []).1 = .ok (tag " x ") ∧
      (session.render 0 (tag " set x = y " ++ tag " x ") []).1 = .ok [] := by
  intro tag setup p session
  have parts : assignmentParts? p.directive = some ("x".toList, "y".toList) := by decide +kernel
  have fails : Assignment.value (Env.lookup ⟨[], declared setup [] "x" [], setup.values⟩) "y" =
      .error (.undefinedVariable "y") :=
    Assignment.value_of_unknown (by decide +kernel) _ (by decide) rfl rfl
  have ran := run_failed rfl (renderWithin setup 0) {} parts fails
  exact ⟨fails, ⟨_, ran, rfl, rfl⟩, by decide +kernel, by decide +kernel⟩

end Fill

end Stencil
