import Stencil.Directive.Pipeline
import Stencil.Proofs.Text.Nesting

/-!
# Pipelines one behind the other

A bar behind a text in which nothing is left open joins two pipelines: the value that the first
one reaches is handed through the segments of the second one. Whether a directive is known hangs
on its name alone, so the complaints about the segments are known before any value is, and only
the last value of the whole is asked whether it is an object.

## Main definitions

* `Pipeline.change`: the value behind a segment
* `Pipeline.objections`: the complaints about segments
* `Pipeline.conclude`: the outcome with the last value

## Main results

* `Pipeline.segments_append_bar`: the segments on both sides of a bar
* `Pipeline.steps_eq`: the steps of a pipeline as a fold, and the complaints about them
* `Pipeline.run_append_bar`: the value of two pipelines one behind the other
-/

namespace Stencil.Pipeline

/-! ## Segments -/

/-- **The segments on both sides of a bar**, behind a text that closes all it opens. -/
theorem segments_append_bar {front : Text} (closed : Text.Nesting.run true {} front = {})
    (back : Text) : segments (front ++ '|' :: back) = segments front ++ segments back := by
  have neutral : Text.Nesting.step true {} '|' = {} := by decide
  rw [segments, Text.splitOutside_append_cons neutral closed, List.map_append]
  rfl

/-- A text without a bar outside of quotes and parentheses is one segment. -/
theorem segments_of_guards {text : Text} (guarded : Text.Nesting.Guards '|' true {} text) :
    segments text = [Text.trim text] := by
  rw [segments, Text.splitOutside, Text.splitOutsideFrom_of_guards guarded, List.map_singleton]

theorem exists_segments (text : Text) : ∃ first rest, segments text = first :: rest := by
  refine List.exists_cons_of_ne_nil fun none => ?_
  rw [segments, List.map_eq_nil_iff] at none
  exact Text.splitOutsideFrom_ne_nil '|' true {} text none

/-! ## Known and unknown directives -/

variable (pipeline : Pipeline) (value : Value)

/-- Whether there is a directive of this name. -/
def knows (name : Text) : Bool :=
  (Directive.ofName? name).isSome || (pipeline.registry.get? name).isSome

/-- The value behind a segment. An unknown directive leaves it as it is. -/
def change (segment : Text) : Value :=
  (pipeline.call? (Invocation.ofText segment) value).getD value

/-- The complaints about segments, one for each unknown directive. -/
def objections (parts : List Text) : List Complaint :=
  ((parts.map fun part => (Invocation.ofText part).name).filter fun name =>
    !pipeline.knows name).map .unknownDirective

/-- The outcome with the last value. An object has no text. -/
def conclude (heard : List Complaint) : Option Value × List Complaint :=
  if value.isObject then (none, heard ++ [.objectAsText]) else (some value, heard)

@[simp] theorem objections_append (parts parts' : List Text) :
    pipeline.objections (parts ++ parts') =
      pipeline.objections parts ++ pipeline.objections parts' := by
  simp only [objections, List.map_append, List.filter_append]

/-- Whether a call gives a value hangs on the name of the directive. -/
theorem isSome_call? (invocation : Invocation) :
    (pipeline.call? invocation value).isSome = pipeline.knows invocation.name := by
  rw [call?, knows]
  cases Directive.ofName? invocation.name with
  | none =>
    rw [Option.isSome_map]
    rfl
  | some directive => rfl

variable {segment : Text}

/-- **An unknown directive** leaves the value as it is, and there is one complaint about it. -/
theorem change_of_unknown (unknown : pipeline.knows (Invocation.ofText segment).name = false) :
    pipeline.change value segment = value ∧
      pipeline.objections [segment] = [.unknownDirective (Invocation.ofText segment).name] := by
  constructor
  · have none := pipeline.isSome_call? value (Invocation.ofText segment)
    rw [unknown, Option.isSome_eq_false_iff, Option.isNone_iff_eq_none] at none
    rw [change, none]
    rfl
  · simp [objections, unknown]

/-- A known directive is called, and there is no complaint about it. -/
theorem call?_of_known (known : pipeline.knows (Invocation.ofText segment).name = true) :
    pipeline.call? (Invocation.ofText segment) value = some (pipeline.change value segment) ∧
      pipeline.objections [segment] = [] := by
  constructor
  · have some := pipeline.isSome_call? value (Invocation.ofText segment)
    rw [known] at some
    obtain ⟨result, found⟩ := Option.isSome_iff_exists.mp some
    rw [change, found]
    rfl
  · simp [objections, known]

/-! ## One step after the other -/

theorem step_eq (segment : Text) :
    pipeline.step value segment =
      (pipeline.change value segment, pipeline.objections [segment]) := by
  rw [step]
  cases known : pipeline.knows (Invocation.ofText segment).name with
  | true =>
    obtain ⟨called, silent⟩ := pipeline.call?_of_known value known
    simp only [called, silent]
  | false =>
    obtain ⟨same, complaint⟩ := pipeline.change_of_unknown value known
    have none := pipeline.isSome_call? value (Invocation.ofText segment)
    rw [known, Option.isSome_eq_false_iff, Option.isNone_iff_eq_none] at none
    simp only [none, same, complaint]

/-- **The steps of a pipeline** hand the value from segment to segment. -/
theorem steps_eq (parts : List Text) :
    pipeline.steps value parts =
      (parts.foldl pipeline.change value, pipeline.objections parts) := by
  induction parts generalizing value with
  | nil => rfl
  | cons part parts ih =>
    have together : pipeline.objections [part] ++ pipeline.objections parts =
        pipeline.objections (part :: parts) := by
      rw [← objections_append, List.singleton_append]
    simp only [steps, step_eq, ih, together, List.foldl_cons]

/-- A pipeline that starts with a value starts without a complaint. -/
theorem snd_start_of_some {complaints : List Complaint}
    (h : pipeline.start segment = (some value, complaints)) : complaints = [] := by
  unfold start at h
  dsimp only at h
  split at h
  · cases h
    rfl
  · split at h
    · split at h <;> cases h
      rfl
    · split at h <;> cases h
      rfl

theorem runSegments_cons_of_none {first : Text} {complaints : List Complaint}
    (unresolved : pipeline.start first = (none, complaints)) (parts : List Text) :
    pipeline.runSegments (first :: parts) = (none, complaints) := by
  rw [runSegments, unresolved]

theorem runSegments_cons_of_some {first : Text} {value : Value} {complaints : List Complaint}
    (started : pipeline.start first = (some value, complaints)) (parts : List Text) :
    pipeline.runSegments (first :: parts) =
      conclude (parts.foldl pipeline.change value) (pipeline.objections parts) := by
  obtain rfl := pipeline.snd_start_of_some value started
  rw [runSegments, started]
  simp only [steps_eq, List.nil_append]
  rfl

/-! ## Two pipelines -/

/-- **Two pipelines one behind the other.** Behind a text that closes all it opens, a bar joins the
segments. Without a value at its start the whole has the complaints of the first segment; else the
value that the front reaches is handed through the segments of the back. An unknown directive
leaves the value as it is with one complaint, and only the last value must not be an object. -/
theorem run_append_bar {front : Text} (closed : Text.Nesting.run true {} front = {})
    (back : Text) :
    segments (front ++ '|' :: back) = segments front ++ segments back ∧
    (∃ first rest, segments front = first :: rest ∧
      (∀ complaints, pipeline.start first = (none, complaints) →
        pipeline.run front = (none, complaints) ∧
        pipeline.run (front ++ '|' :: back) = (none, complaints)) ∧
      ∀ value complaints, pipeline.start first = (some value, complaints) →
        let reached := rest.foldl pipeline.change value
        let passed := (segments back).foldl pipeline.change reached
        complaints = [] ∧
        pipeline.run front = conclude reached (pipeline.objections rest) ∧
        pipeline.run (front ++ '|' :: back) =
          conclude passed (pipeline.objections rest ++ pipeline.objections (segments back))) ∧
    ∀ segment value,
      let name := (Invocation.ofText segment).name
      if pipeline.knows name then
        pipeline.call? (Invocation.ofText segment) value = some (pipeline.change value segment) ∧
        pipeline.objections [segment] = []
      else
        pipeline.change value segment = value ∧
        pipeline.objections [segment] = [.unknownDirective name] ∧
        (Complaint.unknownDirective name).kind = .unsupportedDirective := by
  have joined := segments_append_bar closed back
  obtain ⟨first, rest, parts⟩ := exists_segments front
  refine ⟨joined, ⟨first, rest, parts, ?unresolved, ?started⟩, ?directives⟩
  case unresolved =>
    intro complaints none
    rw [run, run, joined, parts, List.cons_append]
    exact ⟨pipeline.runSegments_cons_of_none none rest,
      pipeline.runSegments_cons_of_none none (rest ++ segments back)⟩
  case started =>
    intro value complaints some reached passed
    refine ⟨pipeline.snd_start_of_some value some, ?_, ?_⟩
    · rw [run, parts]
      exact pipeline.runSegments_cons_of_some some rest
    · rw [run, joined, parts, List.cons_append, pipeline.runSegments_cons_of_some some,
        List.foldl_append, objections_append]
  case directives =>
    intro segment value name
    split
    · next known => exact pipeline.call?_of_known value known
    · next unknown =>
      obtain ⟨same, complaint⟩ := pipeline.change_of_unknown value (Bool.eq_false_iff.mpr unknown)
      exact ⟨same, complaint, rfl⟩

/-- Behind an object and an unknown directive, a registered directive that gives a text. -/
theorem run_append_bar_of_object :
    let registry := Registry.register {} "seal" fun _ arguments => .text arguments
    let values : Scope := [("item", .object none [])]
    let pipeline : Pipeline := ⟨⟨{}, values, 0⟩, registry, ⟨[], [], values⟩⟩
    Text.Nesting.run true {} "item | nope" = {} ∧
    pipeline.run "item | nope" = (none, [.unknownDirective "nope", .objectAsText]) ∧
    pipeline.run "item | nope| seal(a|b)" = (some (.text "a|b"), [.unknownDirective "nope"]) := by
  intro registry values pipeline
  have closed : Text.Nesting.run true {} "item | nope" = {} := by decide
  obtain ⟨-, ⟨first, rest, parts, -, started⟩, -⟩ :=
    pipeline.run_append_bar closed " seal(a|b)"
  obtain ⟨rfl, rfl⟩ : "item".toList = first ∧ ["nope".toList] = rest := by
    have evaluated : segments "item | nope" = ["item".toList, "nope".toList] := by decide
    rwa [evaluated, List.cons.injEq] at parts
  obtain ⟨-, front, whole⟩ := started (.object none []) [] rfl
  exact ⟨closed, front, whole⟩

end Stencil.Pipeline
