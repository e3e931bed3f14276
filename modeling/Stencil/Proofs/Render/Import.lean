import Stencil.Proofs.Render.Conditional
import Stencil.Proofs.Render.Oblivious

/-!
# Imports and texts in place

An import and a conditional block whose condition is true both render a text one level deeper, with
the same bindings of the loops around it. What they leave differs in the trail of events only. So
the import of a text does what the text does in its place, between the tags of a block that is
always taken.

## Main definitions

* `EndAlike`: two runs with the same output, variables and issues
* `Markup.importTag`, `IfBlock.always`: an import, and a block with a condition that is true
* `Fill.IsTarget`: what an import can name as it stands

## Main results

* `Markup.delimits_importTag`, `Fill.importTarget_clause`: an import is read as it is written
* `endAlike_whole`: the trail in front of a render does not matter to what it leaves
* `import_endAlike`: an import is the imported text in place
-/

namespace Stencil

open Markup (Placeholder Span clause closing normalize opening scan)

/-! ## Runs that end alike -/

/-- Two runs give the same output or failure, and leave the same variables and issues. -/
structure EndAlike (one other : Except Failure Rendered × Progress) : Prop where
  result : one.1.map Rendered.output = other.1.map Rendered.output
  globals : one.2.globals = other.2.globals
  issues : one.2.issues = other.2.issues

/-- **The trail in front of a render** does not matter to what it leaves, and it does not matter
which placeholder its output stands for. -/
theorem endAlike_whole (setup : Setup) (levels : Nat) (locals : Scope) (text : Text)
    (start : Progress) (trail trail' : List RenderEvent) (p p' : Placeholder) :
    let nested := renderWithin setup levels locals text
    EndAlike
      ((nested >>= fun inner => pure (Rendered.whole p (some inner.output))).run
        { start with trail })
      ((nested >>= fun inner => pure (Rendered.whole p' (some inner.output))).run
        { start with trail := trail' }) := by
  intro nested
  obtain ⟨account, ran⟩ := oblivious_renderWithin setup levels locals text
  have run (start : Progress) : nested.run start =
      (account start.globals).apply setup.settings.recordIssues start := ran _ _
  rw [Render.run_bind, Render.run_bind, run, run]
  simp only [Account.apply]
  cases (account start.globals).result with
  | error failure => exact ⟨rfl, rfl, rfl⟩
  | ok rendered => exact ⟨rfl, rfl, rfl⟩

/-- A text that is one placeholder, where this placeholder renders a text one level deeper. -/
theorem run_renderWithin_of_inside {setup : Setup} (levels : Nat) (locals : Scope)
    {text content : Text} {p : Placeholder} (start : Progress) {trail : List RenderEvent}
    (h : scan text = [p]) (raw : p.raw = text) (hne : text ≠ [])
    (filled : (Fill.placeholder setup (renderWithin setup levels) locals p).run
        { start with trail := .scanned text :: start.trail } =
      (Fill.inside (renderWithin setup levels) locals content).run { start with trail }) :
    (renderWithin setup (levels + 1) locals text).run start =
      (renderWithin setup levels locals content >>= fun inner =>
        pure (Rendered.whole p (some inner.output))).run { start with trail } := by
  rw [run_renderWithin_of_scan h raw hne, Render.run_bind, filled, ← Render.run_bind,
    Fill.inside_bind]
  rfl

namespace Session

variable (session : Session) (text : Text) (values : Values)
  (outcome : Except Failure Rendered × Progress)

theorem fst_finish : (session.finish text values outcome).1 = outcome.1.map Rendered.output := by
  rcases outcome with ⟨_ | _, _⟩ <;> rfl

theorem globals_finish :
    (session.finish text values outcome).2.globals = outcome.2.globals := by
  rcases outcome with ⟨_ | _, _⟩ <;> rfl

theorem issues_finish : (session.finish text values outcome).2.issues = outcome.2.issues := by
  rcases outcome with ⟨_ | _, _⟩ <;> rfl

end Session

/-! ## Imports as they are written -/

/-- The tag of an import. -/
def Markup.importTag (target : Text) : Text := opening ++ clause "import" target ++ closing

/-- What an import can name as it stands: no marker and no quote is in it, and it is its own normal
form. -/
structure Fill.IsTarget (target : Text) : Prop where
  noOpening : '{' ∉ target
  noClosing : '}' ∉ target
  noQuote : ∀ c ∈ target, Text.isQuote c = false
  normal : normalize target = target

section Target

/-- An import of nothing is refused. -/
theorem ne_nil_of_confinedImport {root target path : Text}
    (h : confinedImport root target = .ok path) : target ≠ [] := by
  rintro rfl
  cases h

variable {target : Text} (h : Fill.IsTarget target) (filled : target ≠ [])
include h filled

/-- **The tag of an import** is a span of its own kind. -/
theorem Markup.delimits_importTag :
    Span.Delimits ⟨importTag target, normalize (clause "import" target), .inclusion⟩
      (clause "import" target) [] := by
  have letters : ∀ c ∈ "import".toList, c.isAlpha = true := List.all_eq_true.mp rfl
  have kind : Kind.classify (normalize (clause "import" target)) = .inclusion :=
    Kind.classify_clause (by decide) letters (h.normal.symm ▸ filled)
  have noOpening : '{' ∉ clause "import" target := by simpa [clause] using h.noOpening
  have noClosing : '}' ∉ clause "import" target := by simpa [clause] using h.noClosing
  have delimits := delimits_tag noOpening noClosing (by rw [kind]; rfl)
  rwa [kind] at delimits

/-- **The path of an import** is read back. -/
theorem Fill.importTarget_clause : importTarget (normalize (clause "import" target)) = target := by
  have letters : ∀ c ∈ "import".toList, c.isAlpha = true := List.all_eq_true.mp rfl
  obtain ⟨-, rest⟩ :=
    Markup.splitKeyword_normalize_clause (by decide) letters (h.normal.symm ▸ filled)
  have unquoted : Text.isQuoted target = false := by
    obtain ⟨c, others, rfl⟩ := List.exists_cons_of_ne_nil filled
    rw [Text.isQuoted, h.noQuote c (List.mem_cons_self ..), Bool.false_and]
  rw [importTarget, rest, h.normal, Text.unquote, unquoted]
  rfl

end Target

/-! ## A block that is always taken -/

/-- The number one as an expression, where no value has it for a name. -/
theorem Condition.holds_one {lookup : Lookup} (unbound : lookup.get? "1" = none) :
    holds lookup "1" = .ok true := by
  have trimmed : Text.trim "1" = "1".toList := by decide +kernel
  have noWord : isLoneWord "1".toList = false := by decide +kernel
  have tokens : tokenize "1".toList = .ok [.number (Number.ofNat 1)] := by decide +kernel
  have read : Expr.parse "1".toList = .ok (.literal (.number (Number.ofNat 1))) := by
    rw [Expr.parse, tokens]
    rfl
  have nonzero : (Value.number (Number.ofNat 1)).isTruthy = true := by decide +kernel
  simp only [holds, trimmed, unbound, noWord, read, Expr.eval, Except.map, nonzero]
  rfl

/-- A text between the tags of a conditional block whose condition is the number one. -/
def Markup.inPlace (content : Text) : Text :=
  opening ++ " if 1 ".toList ++ closing ++ content ++ opening ++ " endif ".toList ++ closing

namespace IfBlock

/-- The block with one branch, whose condition is the number one. -/
def always {body : Text} (h : Branch.IsBody body) : IfBlock where
  branches := [⟨"1".toList, body⟩]
  otherwise := none
  nonempty := List.cons_ne_nil _ _
  isCondition := List.forall_mem_singleton.mpr
    (by decide +kernel : Branch.IsCondition "1".toList)
  quiet := List.forall_mem_nil _
  isBody := List.forall_mem_singleton.mpr h
  isBody_otherwise body mem := by cases mem

variable {body : Text} (h : Branch.IsBody body)

theorem text_always : (always h).text = Markup.inPlace body := by
  have parts : (always h).text = Markup.Section.text ⟨clause "if" "1", body⟩ ++
      (Markup.Section.text (Markup.Section.ending "endif") ++ []) := rfl
  rw [parts]
  simp [Markup.Section.text, Markup.Section.ending, clause, Markup.inPlace]

/-- **A block that is always taken** renders what stands between its tags. -/
theorem run_placeholder_always {setup : Setup} {locals : Scope} (nested : Nested)
    (start : Progress)
    (unbound : (Env.lookup ⟨locals, start.globals, setup.values⟩).get? "1" = none) :
    (Fill.placeholder setup nested locals (always h).placeholder).run start =
      (Fill.inside nested locals body).run
        { start with trail := .tested "1" :: start.trail } := by
  have plain : normalize "1" = "1".toList := by decide +kernel
  have holds : Branch.holds setup locals start.globals ⟨"1".toList, body⟩ = .ok true := by
    rw [Branch.holds, plain, Condition.holds_one unbound]
  have chosen : (Fill.choose setup nested locals (always h).directive none
        [⟨"1".toList, body⟩]).run start =
      (Fill.inside nested locals body).run (start.testing [⟨"1".toList, body⟩]) :=
    Fill.run_choose_of_true start holds
  rw [placeholder_eq]
  refine chosen.trans ?_
  rw [Progress.testing]
  simp only [List.map, plain]
  rfl

end IfBlock

/-! ## Imports in place -/

section Transparent

variable {setup : Setup} {root target path content : Text}
  (hroot : setup.settings.templateRoot = some root) (plain : Fill.IsTarget target)
  (confined : confinedImport root target = .ok path)
  (loaded : setup.loader root path = .ok content) (body : Branch.IsBody content)
include hroot plain confined loaded body

/-- An import at any level, inside any loops, and behind any assignments. -/
theorem endAlike_renderWithin (levels : Nat) (locals : Scope) (start : Progress)
    (unbound : (Env.lookup ⟨locals, start.globals, setup.values⟩).get? "1" = none) :
    EndAlike ((renderWithin setup levels locals (Markup.importTag target)).run start)
      ((renderWithin setup levels locals (Markup.inPlace content)).run start) := by
  cases levels with
  | zero => exact ⟨rfl, rfl, rfl⟩
  | succ levels =>
    -- both texts are one placeholder, and both placeholders render the content one level deeper
    have filled := ne_nil_of_confinedImport confined
    have delimits := Markup.delimits_importTag plain filled
    have named := (Fill.importTarget_clause plain filled).symm ▸ confined
    have imported := run_renderWithin_of_inside levels locals start delimits.scan_raw rfl
      delimits.raw_ne_nil (Fill.run_inclusion_of_loaded _ hroot named loaded)
    have inlined := run_renderWithin_of_inside levels locals start (IfBlock.always body).scan_text
      rfl (IfBlock.always body).text_ne_nil (IfBlock.run_placeholder_always body _ _ unbound)
    rw [IfBlock.text_always] at inlined
    rw [imported, inlined]
    exact endAlike_whole ..

/-- **An import is the imported text in place.** Let the text have no tag that starts or ends a
branch of a conditional block, no closing keyword of one, and no brace at its end that would reach
into the next tag. Wherever no value has the name `1`, the import of the text gives the same output
or the same failure as the text between the tags of a block whose condition is the number one, and
it leaves the same variables and the same issues. This holds inside every render, and of whole
renders. -/
theorem import_endAlike :
    (∀ (levels : Nat) (locals : Scope) (start : Progress),
      (Env.lookup ⟨locals, start.globals, setup.values⟩).get? "1" = none →
        EndAlike ((renderWithin setup levels locals (Markup.importTag target)).run start)
          ((renderWithin setup levels locals (Markup.inPlace content)).run start)) ∧
    ∀ (session : Session) (clock : Int) (values : Values), session.setup clock values = setup →
      (Env.lookup ⟨[], session.globals, setup.values⟩).get? "1" = none →
        let imported := session.renderKeeping clock (Markup.importTag target) values
        let inlined := session.renderKeeping clock (Markup.inPlace content) values
        imported.1 = inlined.1 ∧ imported.2.globals = inlined.2.globals ∧
          imported.2.issues = inlined.2.issues := by
  have alike := endAlike_renderWithin hroot plain confined loaded body
  refine ⟨alike, ?_⟩
  rintro session clock values rfl unbound imported inlined
  obtain ⟨result, globals, issues⟩ := alike (session.settings.maxDepth + 1) []
    { globals := session.globals, issues := session.issues } unbound
  simp only [imported, inlined, Session.renderKeeping_eq_finish, Session.fst_finish,
    Session.globals_finish, Session.issues_finish]
  exact ⟨result, globals, issues⟩

end Transparent

/-- The imported text sets a variable, holds a loop, and ends in a stray marker. -/
theorem import_endAlike_of_loop :
    let tag (inner : String) : Text := opening ++ inner.toList ++ closing
    let content : Text := tag " set n = 2 " ++ tag " for x in xs " ++ tag " x " ++
      tag " endfor " ++ tag " n " ++ opening ++ "n".toList
    let session : Session :=
      { settings := { templateRoot := some "t".toList }
        loader := Loader.ofTemplates [("parts/a".toList, content)] }
    let values : Values := [("xs".toList, .list [.bool true])]
    let imported := session.renderKeeping 0 (Markup.importTag "parts/a") values
    let inlined := session.renderKeeping 0 (Markup.inPlace content) values
    Branch.IsBody content ∧
      (imported.1 = inlined.1 ∧ imported.2.globals = inlined.2.globals ∧
        imported.2.issues = inlined.2.issues) ∧
      imported.1 = .ok ("12".toList ++ opening ++ "n".toList) := by
  intro tag content session values imported inlined
  have body : Branch.IsBody content := by decide +kernel
  have noQuote : ("parts/a".toList.all fun c => !Text.isQuote c) = true := by decide
  have plain : Fill.IsTarget "parts/a" :=
    ⟨by decide, by decide, by simpa using noQuote, by decide +kernel⟩
  have alike := @import_endAlike (session.setup 0 values) "t".toList "parts/a".toList
    "parts/a".toList content rfl plain rfl rfl body
  exact ⟨body, alike.2 session 0 values rfl rfl, by decide +kernel⟩

end Stencil
