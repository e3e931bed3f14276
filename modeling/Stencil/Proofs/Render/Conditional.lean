import Stencil.Proofs.Render.IfBlock
import Stencil.Proofs.Render.Outcome
import Stencil.Proofs.Render.Sequence

/-!
# What a conditional block does

The conditions of a conditional block are tested in their order up to the first one that is true
or fails. The text behind a true condition is rendered one level deeper, a condition that fails
leaves the block open with one issue, and if all are false the last text takes their place. What
the other branches hold has no effect.

## Main definitions

* `Branch.holds`: the condition of a branch
* `Fill.choose`: what branches do, without the text that they are written in
* `Progress.testing`: the progress once conditions were tested

## Main results

* `IfBlock.placeholder_eq`: what a block does is what its branches do
* `Fill.run_choose_append`: branches whose conditions are false are passed over
* `IfBlock.render_eq`: a conditional block picks the first branch whose condition is true
-/

namespace Stencil

open Markup (Section normalize scan tags)

/-! ## Choosing a branch -/

/-- Whether the condition is true, where loops and variables are as given. -/
def Branch.holds (setup : Setup) (locals globals : Scope) (b : Branch) : Except ExprError Bool :=
  Condition.holds (Env.lookup ⟨locals, globals, setup.values⟩) (normalize b.condition)

/-- The progress after the conditions of some branches were tested. -/
def Progress.testing (start : Progress) (tested : List Branch) : Progress :=
  { start with
    trail := (tested.map fun b => .tested (normalize b.condition)).reverse ++ start.trail }

theorem Progress.testing_append (start : Progress) (front back : List Branch) :
    start.testing (front ++ back) = (start.testing front).testing back := by
  simp [testing]

namespace Fill

/-- The text of the first branch whose condition is true, or `last` if there is none. A condition
that fails leaves the block open. -/
def choose (setup : Setup) (nested : Nested) (locals : Scope) (directive : Text)
    (last : Option Text) : List Branch → Render (Option Text)
  | [] => otherwise nested locals last
  | b :: rest => do
    Render.note (.tested (normalize b.condition))
    match Condition.holds (← Render.env setup locals).lookup (normalize b.condition) with
    | .error e =>
      Render.complain setup directive [.failedCondition (normalize b.condition) e]
      return none
    | .ok true => inside nested locals b.body
    | .ok false => choose setup nested locals directive last rest

section Choose

variable {setup : Setup} {nested : Nested} {locals : Scope} {directive : Text}
  {last : Option Text} {b : Branch} {before behind : List Branch} (start : Progress)

/-- **Branches whose conditions are false** are passed over, and only their conditions leave
traces. -/
theorem run_choose_append
    (none : ∀ b ∈ before, b.holds setup locals start.globals = .ok false) :
    (choose setup nested locals directive last (before ++ behind)).run start =
      (choose setup nested locals directive last behind).run (start.testing before) := by
  induction before generalizing start with
  | nil => rfl
  | cons b before ih =>
    obtain ⟨here, none⟩ := List.forall_mem_cons.mp none
    rw [Branch.holds] at here
    -- a test does not change the variables, so the other conditions are false behind it too
    have later := ih (start.testing [b]) none
    rw [← Progress.testing_append, List.singleton_append] at later
    rw [← later, List.cons_append, choose]
    simp only [Render.run_bind, Render.run_note, Render.run_env, here]
    rfl

/-- The first branch is chosen if its condition is true. -/
theorem run_choose_of_true (holds : b.holds setup locals start.globals = .ok true) :
    (choose setup nested locals directive last (b :: behind)).run start =
      (inside nested locals b.body).run (start.testing [b]) := by
  rw [Branch.holds] at holds
  simp only [choose, Render.run_bind, Render.run_note, Render.run_env, holds]
  rfl

/-- A condition that fails leaves the block open, with one issue. -/
theorem run_choose_of_error {e : ExprError}
    (fails : b.holds setup locals start.globals = .error e) :
    (choose setup nested locals directive last (b :: behind)).run start =
      (.ok Option.none,
        { start.testing [b] with
          issues := start.issues ++
            if setup.settings.recordIssues then
              [⟨directive, .failedCondition (normalize b.condition) e⟩]
            else [] }) := by
  rw [Branch.holds] at fails
  simp only [choose, Render.run_bind, Render.run_note, Render.run_env, fails, Render.run_complain]
  rfl

end Choose

/-! ## The branches in the text of a block -/

section Branches

variable (setup : Setup) (nested : Nested) (locals : Scope) (directive : Text) {raw front : Text}

/-- What stands behind the last branch. -/
theorem branches_endings {last : Option Text}
    (same : raw = front ++ Section.textOf (IfBlock.endings last)) :
    branches setup nested locals directive raw
        (Section.marks front.length (IfBlock.endings last)) =
      otherwise nested locals last := by
  cases last with
  | none => rfl
  | some body =>
    have found := Section.slice_body same
    have word (position : Nat) : (Section.mark position ⟨" else ".toList, body⟩).keyword = "else" :=
      IfBlock.keyword_else body
    have noEnd : "else".toList ≠ "endif".toList := by decide
    change branches setup nested locals directive raw [_, _] = _
    simp only [branches, isTaken, word, if_neg noEnd, if_true, found]
    rfl

/-- A tag with a condition starts a branch that reaches up to the next tag. -/
theorem branches_cons {keyword : Text} {b : Branch} {next : Section} {rest : List Section}
    (hk : IsBranchKeyword keyword) (condition : Branch.IsCondition b.condition)
    (same : raw = front ++ Section.textOf (b.toSection keyword :: next :: rest)) :
    branches setup nested locals directive raw
        (Section.marks front.length (b.toSection keyword :: next :: rest)) =
      (do
        Render.note (.tested (normalize b.condition))
        match Condition.holds (← Render.env setup locals).lookup (normalize b.condition) with
        | .error e =>
          Render.complain setup directive [.failedCondition (normalize b.condition) e]
          return none
        | .ok true => inside nested locals b.body
        | .ok false =>
          branches setup nested locals directive raw
            (Section.marks (front ++ (b.toSection keyword).text).length (next :: rest))) := by
  have body := Section.slice_body same
  have noEnd : keyword ≠ "endif".toList := by rcases hk with rfl | rfl <;> decide
  have noElse : keyword ≠ "else".toList := by rcases hk with rfl | rfl <;> decide
  rw [List.length_append, Section.marks, Section.marks]
  rw [hk.mark_eq condition] at body ⊢
  rw [branches]
  simp only [if_neg noEnd, isTaken, if_neg noElse, body, bind_assoc, pure_bind, inside]
  rfl

/-- **The branches in the text of a block** are chosen from as if they stood alone. -/
theorem branches_eq_choose {keyword : Text} {bs : List Branch} {last : Option Text}
    (hk : IsBranchKeyword keyword) (conditions : ∀ b ∈ bs, Branch.IsCondition b.condition)
    (same : raw = front ++ Section.textOf (Branch.sections keyword bs ++ IfBlock.endings last)) :
    branches setup nested locals directive raw
        (Section.marks front.length (Branch.sections keyword bs ++ IfBlock.endings last)) =
      choose setup nested locals directive last bs := by
  induction bs generalizing front keyword with
  | nil => exact branches_endings setup nested locals directive same
  | cons b rest ih =>
    obtain ⟨condition, conditions⟩ := List.forall_mem_cons.mp conditions
    rw [Branch.sections, List.cons_append] at same ⊢
    have later : raw = front ++ (b.toSection keyword).text ++
        Section.textOf (Branch.sections "elseif" rest ++ IfBlock.endings last) := by
      simpa using same
    have ih := ih (.inr rfl) conditions later
    obtain ⟨next, others, split⟩ := List.exists_cons_of_ne_nil
      (IfBlock.sections_append_endings_ne_nil "elseif" rest last)
    rw [split] at same ih ⊢
    rw [branches_cons setup nested locals directive hk condition same, ih, choose]

end Branches

end Fill

/-! ## What a block does -/

namespace IfBlock

/-- **What a block does** is what its branches do. -/
theorem placeholder_eq (block : IfBlock) (setup : Setup) (nested : Nested) (locals : Scope) :
    Fill.placeholder setup nested locals block.placeholder =
      Fill.choose setup nested locals block.directive block.otherwise block.branches := by
  change Fill.branches setup nested locals block.directive block.text
    ((tags block.text).filter Fill.isBranchTag) = _
  rw [filter_tags]
  have same : block.text = [] ++
      Section.textOf (Branch.sections "if" block.branches ++ endings block.otherwise) := rfl
  exact Fill.branches_eq_choose setup nested locals block.directive (.inl rfl)
    block.isCondition same

/-- **A conditional block picks the first branch whose condition is true.** The block is one
placeholder. Its conditions are tested in their order, normalized, and none is tested behind the
first that is true or fails. The text behind a true condition is rendered one level deeper, with
the same bindings of the loops around it, and its output is that of the block. A condition that
fails leaves the block open with one issue. If all conditions are false, the text behind `else`
is rendered, or the output is empty. -/
theorem render_eq (block : IfBlock) :
    scan block.text = [block.placeholder] ∧
    ∀ (setup : Setup) (levels : Nat) (locals : Scope) (start : Progress),
      let run := (renderWithin setup (levels + 1) locals block.text).run start
      let nested := renderWithin setup levels locals
      let holds := Branch.holds setup locals start.globals
      let tested := Progress.testing { start with trail := .scanned block.text :: start.trail }
      let filled := Rendered.whole block.placeholder
      (∀ before b behind, block.branches = before ++ b :: behind →
        (∀ c ∈ before, holds c = .ok false) →
        (holds b = .ok true →
          run = (nested b.body >>= fun inner => pure (filled (some inner.output))).run
            (tested (before ++ [b]))) ∧
        (∀ e, holds b = .error e →
          let issue : Issue := ⟨block.directive, .failedCondition (normalize b.condition) e⟩
          issue.complaint.kind = .expressionEvaluation ∧
            run = (.ok (filled setup.settings.fallback.replacement?),
              { tested (before ++ [b]) with
                issues := start.issues ++
                  if setup.settings.recordIssues then [issue] else [] }))) ∧
      ((∀ b ∈ block.branches, holds b = .ok false) →
        run =
          match block.otherwise with
          | some body =>
            (nested body >>= fun inner => pure (filled (some inner.output))).run
              (tested block.branches)
          | none => (.ok (filled (some [])), tested block.branches)) := by
  refine ⟨block.scan_text, ?_⟩
  intro setup levels locals start run nested holds tested filled
  have whole : run = _ := run_renderWithin_of_scan block.scan_text rfl block.text_ne_nil setup
    levels locals start
  rw [Render.run_bind, block.placeholder_eq] at whole
  let begun : Progress := { start with trail := .scanned block.text :: start.trail }
  constructor
  · intro before b behind split none
    rw [split, Fill.run_choose_append begun none] at whole
    constructor
    · intro true_b
      rw [whole, Fill.run_choose_of_true (begun.testing before) true_b,
        ← Progress.testing_append, ← Render.run_bind, Fill.inside_bind]
      rfl
    · intro e fails
      refine ⟨rfl, ?_⟩
      rw [whole, Fill.run_choose_of_error (begun.testing before) fails, ← Progress.testing_append]
      rfl
  · intro none
    rw [← List.append_nil block.branches, Fill.run_choose_append begun none, Fill.choose] at whole
    rw [whole]
    cases block.otherwise with
    | none => rfl
    | some body =>
      rw [← Render.run_bind, Fill.otherwise, Fill.inside_bind]
      rfl

/-- The second condition is true. The text behind the first one, which sets a variable, has no
effect, and a stray marker at the end of the second text does not hide `else`. -/
theorem render_eq_of_second_branch :
    let tag (inner : String) : Text := Markup.opening ++ inner.toList ++ Markup.closing
    let first : Branch :=
      ⟨"seen_endif".toList, tag " set n = 2 " ++ tag " for x in xs " ++ tag " endfor "⟩
    let second : Branch := ⟨"n == 1".toList, tag " n " ++ Markup.opening ++ " n".toList⟩
    let setup := ({ loader := Loader.ofTemplates [] } : Session).setup 0
      [("n".toList, .number (Number.ofNat 1))]
    let begun : Progress := {}
    ∃ block : IfBlock,
      block.text = tag " if seen_endif " ++ first.body ++ tag " elseif n == 1 " ++ second.body ++
        tag " else " ++ "none".toList ++ tag " endif " ∧
      (renderWithin setup 2 [] block.text).run begun =
        (renderWithin setup 1 [] second.body >>= fun inner =>
          pure (Rendered.whole block.placeholder (some inner.output))).run
            { begun with
              trail := [.tested "n == 1".toList, .tested "seen_endif".toList,
                .scanned block.text] } := by
  intro tag first second setup begun
  let block : IfBlock :=
    { branches := [first, second]
      otherwise := some "none".toList
      nonempty := List.cons_ne_nil _ _
      isCondition := by decide +kernel
      quiet := by decide +kernel
      isBody := by decide +kernel
      isBody_otherwise := by decide +kernel }
  have false_first : first.holds setup [] begun.globals = .ok false := by decide +kernel
  have true_second : second.holds setup [] begun.globals = .ok true := by decide +kernel
  have written : block.text = tag " if seen_endif " ++ first.body ++ tag " elseif n == 1 " ++
      second.body ++ tag " else " ++ "none".toList ++ tag " endif " := by decide +kernel
  have plain : normalize "n == 1".toList = "n == 1".toList ∧
      normalize "seen_endif".toList = "seen_endif".toList := by decide +kernel
  obtain ⟨-, runs⟩ := render_eq block
  obtain ⟨picked, -⟩ := (runs setup 1 [] begun).1 [first] second [] rfl (by simpa using false_first)
  refine ⟨block, written, (picked true_second).trans ?_⟩
  simp only [Progress.testing, List.map, List.singleton_append, first, second, plain]
  rfl

end IfBlock

end Stencil
