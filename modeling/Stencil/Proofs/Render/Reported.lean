import Stencil.Proofs.Render.Assigned
import Stencil.Proofs.Render.Boundary
import Stencil.Proofs.Render.Oblivious
import Stencil.Proofs.Render.Shown

/-!
# Placeholders that stay open are reported

A placeholder without a text stays open, or the fallback takes its place. While issues are recorded,
the evaluation that leaves it open records why. There are two exceptions. A pipeline whose first
segment is empty has nothing to complain about. And a loop with a proper head whose opening tag is
its only boundary has no text to repeat: it is left open without a word, unlike a loop with a
malformed head.

## Main definitions

* `Fill.Silent setup locals globals p`: nothing is said about why `p` stays open
* `Fill.Reports part start directive silent`: if `part` leaves a placeholder open, it records why

## Main results

* `Pipeline.complaints_eq_nil_iff`: when a pipeline without a value has no complaint
* `Fill.reports_placeholder`: what is recorded by the evaluation of a placeholder
* `Fill.open_placeholder_reported`: what is left open, by an evaluation and by a whole render
-/

namespace Stencil

open Markup (Placeholder scan)

/-! ## Pipelines -/

namespace Pipeline

variable {pipeline : Pipeline} {segment text : Text} {invocation : Invocation}

theorem complaintAbout_eq_nil_iff : complaintAbout segment invocation = [] ↔ segment = [] := by
  rw [complaintAbout]
  split
  · next empty => exact iff_of_true rfl empty
  · next filled =>
    refine iff_of_false ?_ filled
    split <;> exact List.cons_ne_nil _ _

/-- A first segment without a value is complained about, unless it is empty. -/
theorem snd_start_eq_nil_iff (unstarted : (pipeline.start segment).1 = none) :
    (pipeline.start segment).2 = [] ↔ segment = [] := by
  revert unstarted
  unfold start
  cases pipeline.env.lookup.get? segment with
  | some value => exact fun unstarted => nomatch unstarted
  | none =>
    by_cases dotted : Path.isDotted segment = true
    · have filled : segment ≠ [] := by
        rintro rfl
        cases dotted
      simp only [if_pos dotted]
      cases Path.resolve? pipeline.env.lookup segment with
      | some value => exact fun unstarted => nomatch unstarted
      | none => exact fun _ => iff_of_false (List.cons_ne_nil _ _) filled
    · simp only [if_neg dotted]
      cases pipeline.call? (Invocation.ofText segment) .null with
      | some value => exact fun unstarted => nomatch unstarted
      | none => exact fun _ => complaintAbout_eq_nil_iff

/-- **A pipeline without a value has no complaint** iff its first segment is empty and has none. -/
theorem complaints_eq_nil_iff (without : (pipeline.run text).1 = none) :
    (pipeline.run text).2 = [] ↔
      ∃ rest, segments text = [] :: rest ∧ (pipeline.start []).1 = none := by
  rw [run] at without ⊢
  cases segments_eq : segments text with
  | nil =>
    rw [segments, List.map_eq_nil_iff] at segments_eq
    exact absurd segments_eq (Text.splitOutsideFrom_ne_nil _ _ _ _)
  | cons first rest =>
    rw [segments_eq, runSegments] at without
    rw [runSegments]
    rcases started : pipeline.start first with ⟨- | value, complaints⟩
    · -- without a value to start from, the directives behind it are not reached
      have empty := snd_start_eq_nil_iff (congrArg Prod.fst started)
      rw [started] at empty
      refine empty.trans ⟨?_, ?_⟩
      · rintro rfl
        exact ⟨rest, rfl, congrArg Prod.fst started⟩
      · rintro ⟨_, same, _⟩
        exact (List.cons.inj same).1
    · rw [started] at without
      simp only at without ⊢
      split at without
      · next object =>
        rw [if_pos object]
        refine iff_of_false (by simp) ?_
        rintro ⟨later, same, unstarted⟩
        rw [← (List.cons.inj same).1, started] at unstarted
        cases unstarted
      · cases without

end Pipeline

namespace Fill

/-! ## Exceptions -/

/-- Nothing is said about why the placeholder stays open: the first segment of a pipeline is empty
and without a value, or a loop with a proper head has no second boundary. -/
def Silent (setup : Setup) (locals globals : Scope) (p : Placeholder) : Prop :=
  (p.kind = .simple ∧ ∃ rest, Pipeline.segments p.directive = [] :: rest ∧
    (Pipeline.start ⟨setup.toSurroundings, setup.registry, ⟨locals, globals, setup.values⟩⟩ []).1 =
      none) ∨
  (p.kind = .loop ∧ (loopHead? p.directive).isSome ∧ (boundaries .loop p.raw).length < 2)

/-! ## Reports of the kinds of placeholders -/

/-- If the part leaves a placeholder open, it only records complaints about it, and it records none
exactly in the case `silent`. -/
def Reports (part : Render (Option Text)) (start : Progress) (directive : Text) (silent : Prop) :
    Prop :=
  ∀ stop, part.run start = (.ok none, stop) →
    ∃ complaints : List Complaint,
      stop.issues = start.issues ++ complaints.map (Issue.mk directive) ∧
        (complaints = [] ↔ silent)

namespace Reports

variable {part : Render (Option Text)} {start : Progress} {directive : Text} {silent other : Prop}

/-- A part that always has a text leaves nothing open. -/
theorem of_returns (filled : Render.Returns part fun text? => text?.isSome = true) :
    Reports part start directive silent :=
  fun _ ran => Bool.noConfusion (filled _ _ _ ran)

theorem congr (h : Reports part start directive silent) (same : silent ↔ other) :
    Reports part start directive other := by
  intro stop ran
  obtain ⟨complaints, added, none⟩ := h stop ran
  exact ⟨complaints, added, none.trans same⟩

end Reports

section Kinds

variable {setup : Setup} {nested : Nested} {locals : Scope} {directive raw : Text}
  {start : Progress}

open Render (Returns returns_any returns_pure)

/-- An import has the text of a template, or the render fails. -/
theorem inclusion_returns (setup : Setup) (nested : Nested) (locals : Scope) (directive : Text) :
    Returns (inclusion setup nested locals directive) fun text? => text?.isSome = true := by
  unfold inclusion
  refine (returns_any _).bind fun _ _ => ?_
  cases setup.settings.templateRoot with
  | none =>
    intro start stop text? ran
    cases ran
  | some root =>
    exact (returns_any _).bind fun path _ => (returns_any _).bind fun _ _ =>
      (returns_any _).bind fun content _ => (returns_any _).bind fun _ _ => returns_pure rfl

variable (recorded : setup.settings.recordIssues = true)
include recorded

theorem reports_simple : Reports (simple setup locals directive) start directive
    (∃ rest, Pipeline.segments directive = [] :: rest ∧ (Pipeline.start
      ⟨setup.toSurroundings, setup.registry, ⟨locals, start.globals, setup.values⟩⟩ []).1 =
        none) := by
  intro stop ran
  simp only [simple, Render.run_bind, Render.run_env, Render.run_complain, recorded, if_true,
    Render.run_pure] at ran
  obtain ⟨shown, rfl⟩ := Prod.mk.inj ran
  have without := Option.map_eq_none_iff.mp (Except.ok.inj shown)
  exact ⟨_, rfl, Pipeline.complaints_eq_nil_iff without⟩

/-- A conditional block stays open where a condition fails, and the failure is recorded. -/
theorem reports_branches (marks : List Markup.Tag) :
    Reports (branches setup nested locals directive raw marks) start directive False := by
  induction marks generalizing start with
  | nil => exact .of_returns (returns_pure rfl)
  | cons tag marks ih =>
    cases marks with
    | nil => exact .of_returns (returns_pure rfl)
    | cons next rest =>
      simp only [branches]
      split
      · exact .of_returns (returns_pure rfl)
      · intro stop ran
        obtain ⟨taken, trail, tested⟩ := exists_run_isTaken setup locals tag start
        rw [Render.run_bind, tested] at ran
        rcases taken with e | - | -
        · simp only [Render.run_bind, Render.run_complain, recorded, if_true,
            Render.run_pure] at ran
          obtain ⟨-, rfl⟩ := Prod.mk.inj ran
          exact ⟨[.failedCondition tag.rest e], rfl, by simp⟩
        · have passed : Reports (branches setup nested locals directive raw (next :: rest))
              { start with trail } directive False := ih
          exact passed stop ran
        · have filled : Returns (nested locals (raw.slice tag.stop next.start) >>= fun inner =>
              pure (some inner.output)) fun text? => text?.isSome = true :=
            (returns_any _).bind fun _ _ => returns_pure rfl
          exact Bool.noConfusion (filled _ _ _ ran)

/-- A loop stays open if its head is malformed, which is recorded, or if it has no parts. -/
theorem reports_loop : Reports (loop setup nested locals directive raw) start directive
    ((loopHead? directive).isSome ∧ (boundaries .loop raw).length < 2) := by
  unfold loop
  cases head : loopHead? directive with
  | none =>
    intro stop ran
    simp only [Render.run_bind, Render.run_complain, recorded, if_true, Render.run_pure] at ran
    obtain ⟨-, rfl⟩ := Prod.mk.inj ran
    exact ⟨[.malformedLoop], rfl, by simp⟩
  | some parts =>
    cases found : loopParts? raw with
    | none =>
      intro stop ran
      obtain ⟨-, rfl⟩ := Prod.mk.inj ran
      exact ⟨[], by simp, iff_of_true rfl ⟨rfl, loopParts?_eq_none_iff.mp found⟩⟩
    | some texts =>
      refine .of_returns ((returns_any _).bind fun env _ => ?_)
      cases loopItems (Path.resolve? env.lookup parts.2) with
      | nil =>
        cases texts.2 with
        | none => exact returns_pure rfl
        | some text => exact (returns_any _).bind fun _ _ => returns_pure rfl
      | cons value rest => exact (returns_any _).bind fun _ _ => returns_pure rfl

end Kinds

/-- **What the evaluation of a placeholder records** if it leaves the placeholder open. -/
theorem reports_placeholder {setup : Setup} (recorded : setup.settings.recordIssues = true)
    (nested : Nested) (locals : Scope) (p : Placeholder) (start : Progress) :
    Reports (placeholder setup nested locals p) start p.directive
      (Silent setup locals start.globals p) := by
  rw [placeholder]
  cases kind : p.kind with
  | simple => exact (reports_simple recorded).congr (by simp [Silent, kind])
  | assignment =>
    refine .of_returns fun start stop text? ran => ?_
    rw [assignment_returns _ _ _ _ _ _ ran]
    rfl
  | conditional =>
    rw [conditional_eq_branches]
    exact (reports_branches recorded _).congr (by simp [Silent, kind])
  | loop => exact (reports_loop recorded).congr (by simp [Silent, kind])
  | inclusion => exact .of_returns (inclusion_returns setup nested locals p.directive)

/-! ## Whole renders -/

/-- Issues are only added to. -/
theorem issues_prefix_placeholders (setup : Setup) (levels : Nat) (locals : Scope)
    (ps : List Placeholder) (start : Progress) :
    start.issues <+:
      ((placeholders setup (renderWithin setup levels) locals ps).run start).2.issues := by
  have oblivious : Oblivious fun record => placeholders (setup.recording record)
      (renderWithin (setup.recording record) levels) locals ps :=
    (Oblivious.compositional setup).placeholders locals fun p _ =>
      oblivious_placeholder setup locals (oblivious_renderWithin setup levels) p
  obtain ⟨account, ran⟩ := oblivious
  have account_eq := ran setup.settings.recordIssues start
  exact ⟨_, (congrArg (fun outcome => outcome.2.issues) account_eq).symm⟩

/-- **Every placeholder is evaluated**: what it gives, or the fallback, replaces it, and the issues
of its evaluation are among those of the render. -/
theorem exists_evaluation {setup : Setup} {levels : Nat} {locals : Scope} {text : Text}
    {p : Placeholder} {start stop : Progress} {rendered : Rendered} (mem : p ∈ scan text)
    (success : (renderWithin setup (levels + 1) locals text).run start = (.ok rendered, stop)) :
    ∃ begun text? middle,
      (placeholder setup (renderWithin setup levels) locals p).run begun = (.ok text?, middle) ∧
      rendered.replacements.lookup p.raw = text?.or setup.settings.fallback.replacement? ∧
      start.issues <+: begun.issues ∧ middle.issues <+: stop.issues := by
  obtain ⟨front, rest, scanned⟩ := List.append_of_mem mem
  obtain ⟨earlier, begun, ran⟩ := Rendered.exists_front scanned success
  have before := issues_prefix_placeholders setup levels locals front
    { start with trail := .scanned text :: start.trail }
  rw [ran] at before
  have whole := success
  rw [run_renderWithin_of_append scanned, ran] at whole
  simp only [resume_cons, Render.run_bind] at whole
  rcases filled : (placeholder setup (renderWithin setup levels) locals p).run begun with
    ⟨failure | text?, middle⟩
  · rw [filled] at whole
    cases whole
  · have replaced := Rendered.lookup_of_filled scanned ran filled success
    refine ⟨begun, text?, middle, filled, replaced, before, ?_⟩
    rw [filled] at whole
    simp only [resume, Render.run_bind] at whole
    have behind := issues_prefix_placeholders setup levels locals rest middle
    split at whole
    · next later last ran' =>
      rw [ran'] at behind
      cases whole
      exact behind
    · cases whole

/-- **What is left open is reported.** While issues are recorded, an evaluation that leaves a
placeholder open adds complaints about it to the issues: at least one, unless the placeholder is a
pipeline whose first segment is empty and without a value, or a loop with a proper head and no
second boundary. This holds at every level of a render, whatever the bindings of the loops around it
and the progress. A whole render evaluates each of its placeholders, and the issues that arise
stay. -/
theorem open_placeholder_reported {setup : Setup} (recorded : setup.settings.recordIssues = true) :
    (∀ (nested : Nested) (locals : Scope) (p : Placeholder) (start stop : Progress),
      (placeholder setup nested locals p).run start = (.ok none, stop) →
        ∃ complaints : List Complaint,
          stop.issues = start.issues ++ complaints.map (Issue.mk p.directive) ∧
            (complaints = [] ↔ Silent setup locals start.globals p)) ∧
    ∀ (levels : Nat) (locals : Scope) (text : Text) (start stop : Progress) (rendered : Rendered),
      (renderWithin setup (levels + 1) locals text).run start = (.ok rendered, stop) →
        ∀ p ∈ scan text, ∃ begun text? middle,
          (placeholder setup (renderWithin setup levels) locals p).run begun =
            (.ok text?, middle) ∧
          rendered.replacements.lookup p.raw = text?.or setup.settings.fallback.replacement? ∧
          (text? = none → Silent setup locals begun.globals p ∨
            ∃ earlier issue later, stop.issues = start.issues ++ earlier ++ issue :: later ∧
              issue.placeholder = p.directive) := by
  have reports := fun nested locals p start => reports_placeholder recorded nested locals p start
  refine ⟨reports, ?_⟩
  intro levels locals text start stop rendered success p mem
  obtain ⟨begun, text?, middle, filled, replaced, ⟨earlier, before⟩, ⟨later, behind⟩⟩ :=
    exists_evaluation mem success
  refine ⟨begun, text?, middle, filled, replaced, ?_⟩
  rintro rfl
  -- the evaluation adds its complaints to the issues in front, and none of them is lost later
  obtain ⟨complaints, added, none⟩ := reports _ locals p begun middle filled
  cases complaints with
  | nil => exact .inl (none.mp rfl)
  | cons complaint more =>
    refine .inr ⟨earlier, Issue.mk p.directive complaint,
      more.map (Issue.mk p.directive) ++ later, ?_, rfl⟩
    rw [← behind, added, ← before]
    simp

/-- A name without a value is reported by its evaluation, and by the render of its tag. -/
theorem open_placeholder_reported_of_unknown_name :
    let session : Session := { loader := Loader.ofTemplates [] }
    let setup := session.setup 0 []
    let text : Text := Markup.opening ++ " y ".toList ++ Markup.closing
    let p : Placeholder := ⟨⟨text, "y".toList, .simple⟩, 0⟩
    let evaluated := (placeholder setup (renderWithin setup 0) [] p).run {}
    setup.settings.recordIssues = true ∧ evaluated.1 = .ok none ∧
      (∃ complaints : List Complaint, complaints ≠ [] ∧
        evaluated.2.issues = complaints.map (Issue.mk p.directive)) ∧
      ∃ rendered stop, (renderWithin setup 1 [] text).run {} = (.ok rendered, stop) ∧
        rendered.replacements.lookup text = none ∧
        ∃ issue ∈ stop.issues, issue.placeholder = p.directive := by
  intro session setup text p evaluated
  have none : evaluated.1 = .ok none := by decide +kernel
  have segments : Pipeline.segments p.directive = ["y".toList] := by decide +kernel
  have loud (globals : Scope) : ¬ Silent setup [] globals p := by
    rintro (⟨-, rest, same, -⟩ | ⟨kind, -⟩)
    · rw [segments] at same
      cases same
    · cases kind
  have recorded : setup.settings.recordIssues = true := rfl
  obtain ⟨reported, whole⟩ := open_placeholder_reported recorded
  refine ⟨recorded, none, ?_, ?_⟩
  · obtain ⟨complaints, added, silent⟩ :=
      reported (renderWithin setup 0) [] p {} evaluated.2 (Prod.ext none rfl)
    exact ⟨complaints, fun empty => loud [] (silent.mp empty), added⟩
  · have replacements : ((renderWithin setup 1 [] text).run {}).1.map Rendered.replacements =
        .ok [] := by decide +kernel
    rcases success : (renderWithin setup 1 [] text).run {} with ⟨failure | rendered, stop⟩
    · rw [success] at replacements
      cases replacements
    · rw [success] at replacements
      have empty : rendered.replacements = [] := Except.ok.inj replacements
      obtain ⟨begun, text?, middle, filled, replaced, left⟩ :=
        whole 0 [] text {} stop rendered success p (by decide +kernel)
      refine ⟨rendered, stop, rfl, by rw [empty]; rfl, ?_⟩
      rw [empty] at replaced
      cases text? with
      | some shown => cases replaced
      | none =>
        rcases left rfl with silent | ⟨earlier, issue, later, added, named⟩
        · exact absurd silent (loud begun.globals)
        · exact ⟨issue, by rw [added]; simp, named⟩

/-- **A loop without parts stays open in silence**: the closing keyword stands in running text, so
the loop has no second boundary, and no issue is recorded although the render records issues. -/
theorem loop_without_parts_is_silent :
    let tag (inner : String) : Text := Markup.opening ++ inner.toList ++ Markup.closing
    let raw : Text := tag " for x in xs " ++ tag " x " ++ " endfor ".toList ++ Markup.closing
    let session : Session := { loader := Loader.ofTemplates [] }
    let values : Values := [("xs".toList, .list [.bool true])]
    let setup := session.setup 0 values
    let p : Placeholder := ⟨⟨raw, "for x in xs".toList, .loop⟩, 0⟩
    let evaluated := (placeholder setup (renderWithin setup setup.settings.maxDepth) [] p).run {}
    p ∈ scan raw ∧ setup.settings.recordIssues = true ∧ evaluated.1 = .ok none ∧
      evaluated.2.issues = [] ∧
      (session.render 0 raw values).1.toOption = some raw ∧
      (session.render 0 raw values).2.issues = [] := by
  decide +kernel

end Fill

end Stencil
