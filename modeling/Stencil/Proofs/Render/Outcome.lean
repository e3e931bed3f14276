import Stencil.Proofs.Render.Part
import Stencil.Proofs.Render.Pass
import Stencil.Proofs.Render.Positional
import Stencil.Render.Session

/-!
# The outcome of a render

A render that does not fail substitutes the replacements that it has collected. They belong
to placeholders of the template, in the order of the placeholders; with a fallback there is
one for every placeholder.

## Main definitions

* `Render.Returns`: a property of all values that a part of a render returns
* `Replacements.Covers`: replacements for some of the placeholders, in their order
* `Rendered.whole`: the rendered text of a placeholder that makes up its whole text
* `Session.finish`: what a render leaves of a session

## Main results

* `Fill.placeholders_returns`: the collected replacements cover the placeholders
* `run_renderWithin_of_scan`: a text that is one placeholder
* `Session.render_outcome`: the output and the snapshot of a render
* `Replacements.Covers.ofSpans`: what is replaced are delimited spans
-/

namespace Stencil

open Markup (Placeholder scan layout)

/-! ## What parts of a render return -/

namespace Render

variable {α β : Type} {P : α → Prop} {Q : β → Prop}

/-- Whatever `part` returns, if it does not fail, satisfies `P`. -/
def Returns (part : Render α) (P : α → Prop) : Prop :=
  ∀ start stop a, part.run start = (.ok a, stop) → P a

theorem returns_any (part : Render α) : Returns part fun _ => True :=
  fun _ _ _ _ => trivial

theorem returns_pure {a : α} (h : P a) : Returns (pure a) P := by
  intro start stop b same
  cases same
  exact h

theorem Returns.bind {part : Render α} {next : α → Render β} (first : Returns part P)
    (second : ∀ a, P a → Returns (next a) Q) : Returns (part >>= next) Q := by
  intro start stop b same
  rw [run_bind] at same
  split at same
  · next a middle ran => exact second a (first start middle a ran) middle stop b same
  · cases same

end Render

/-! ## The collected replacements -/

/-- The replacements belong to placeholders, in the order of the placeholders, and all
placeholders have one if there is a fallback. -/
structure Replacements.Covers (fallback : Fallback) (placeholders : List Placeholder)
    (replacements : Replacements) : Prop where
  sublist : (replacements.map Prod.fst).Sublist (placeholders.map fun p => p.raw)
  all_of_fallback : fallback ≠ .keep →
    replacements.map Prod.fst = placeholders.map fun p => p.raw

/-- A text of no placeholder has no replacement. -/
theorem Replacements.Covers.lookup_eq_none {fallback : Fallback} {ps : List Placeholder}
    {replacements : Replacements} (covers : Covers fallback ps replacements) {raw : Text}
    (foreign : ∀ p ∈ ps, p.raw ≠ raw) : replacements.lookup raw = none := by
  rw [List.lookup_eq_none_iff]
  intro r hr
  obtain ⟨p, hp, same⟩ := List.mem_map.mp (covers.sublist.subset (List.mem_map_of_mem hr))
  rw [← same]
  exact bne_iff_ne.mpr (Ne.symm (foreign p hp))

theorem Fallback.replacement?_eq_none_iff {fallback : Fallback} :
    fallback.replacement? = none ↔ fallback = .keep := by
  cases fallback <;> simp [Fallback.replacement?]

open Render in
/-- **The collected replacements** cover the placeholders. -/
theorem Fill.placeholders_returns (setup : Setup) (nested : Nested) (locals : Scope)
    (placeholders : List Placeholder) :
    Returns (Fill.placeholders setup nested locals placeholders)
      (Replacements.Covers setup.settings.fallback placeholders) := by
  induction placeholders with
  | nil => exact returns_pure ⟨List.Sublist.refl _, fun _ => rfl⟩
  | cons first rest ih =>
    refine (returns_any _).bind fun text? _ => ih.bind fun replacements covers => ?_
    split
    · exact returns_pure ⟨covers.sublist.cons_cons _,
        fun given => congrArg (first.raw :: ·) (covers.all_of_fallback given)⟩
    · next none =>
      refine returns_pure ⟨covers.sublist.cons _, fun given => ?_⟩
      rw [Option.or_eq_none_iff, Fallback.replacement?_eq_none_iff] at none
      exact absurd none.2 given

open Render in
/-- A rendered text is the text of the template with the collected replacements. -/
theorem renderWithin_returns (setup : Setup) (levels : Nat) (locals : Scope) (text : Text) :
    Returns (renderWithin setup levels locals text) fun rendered =>
      Replacements.Covers setup.settings.fallback (scan text) rendered.replacements ∧
        rendered = ⟨rendered.replacements.substitute text, rendered.replacements, scan text⟩ := by
  rw [renderWithin.eq_def]
  cases levels with
  | zero => intro start stop a same; cases same
  | succ levels =>
    refine (returns_any _).bind fun _ _ => ?_
    refine (Fill.placeholders_returns _ _ _ _).bind fun replacements covers => ?_
    exact returns_pure ⟨covers, rfl⟩

/-! ## Texts that are one placeholder -/

/-- The rendered text of a placeholder that makes up its whole text. -/
def Rendered.whole (p : Placeholder) (replacement? : Option Text) : Rendered where
  output := replacement?.getD p.raw
  replacements := (replacement?.map fun text => (p.raw, text)).toList
  placeholders := [p]

/-- **A text that is one placeholder** is what the placeholder is replaced by. -/
theorem run_renderWithin_of_scan {text : Text} {p : Placeholder} (h : scan text = [p])
    (raw : p.raw = text) (hne : text ≠ []) (setup : Setup) (levels : Nat) (locals : Scope)
    (start : Progress) :
    (renderWithin setup (levels + 1) locals text).run start =
      (Fill.placeholder setup (renderWithin setup levels) locals p >>= fun text? =>
        pure (Rendered.whole p (text?.or setup.settings.fallback.replacement?))).run
          { start with trail := .scanned text :: start.trail } := by
  simp only [renderWithin, h, Fill.placeholders, Render.run_bind, Render.run_note]
  rcases (Fill.placeholder setup (renderWithin setup levels) locals p).run _ with
    ⟨failure | text?, middle⟩
  · rfl
  · subst raw
    simp only [Rendered.whole, Render.run_pure]
    cases text?.or setup.settings.fallback.replacement? with
    | none =>
      simp only [Render.run_pure, Replacements.substitute_nil]
      rfl
    | some replacement =>
      simp only [Render.run_pure, Replacements.substitute_singleton hne]
      rfl

/-! ## The outcome of a session's render -/

namespace Session

/-- What a render with the given outcome leaves. -/
def finish (session : Session) (text : Text) (values : Values) :
    Except Failure Rendered × Progress → Except Failure Text × Session
  | (.ok rendered, progress) =>
    (.ok rendered.output,
      { session with
        globals := progress.globals
        issues := progress.issues
        snapshot := some ⟨rendered.replacements, rendered.placeholders, values, text⟩ })
  | (.error failure, progress) =>
    (.error failure, { session with globals := progress.globals, issues := progress.issues })

theorem renderKeeping_eq_finish (session : Session) (clock : Int) (text : Text)
    (values : Values) :
    session.renderKeeping clock text values =
      session.finish text values ((Stencil.render (session.setup clock values) text).run
        { globals := session.globals, issues := session.issues }) := by
  rw [renderKeeping]
  rcases (Stencil.render (session.setup clock values) text).run _ with ⟨_ | _, _⟩ <;> rfl

/-- The output of a render without variables at its start. -/
theorem fst_render_of_run {session : Session} {clock : Int} {text : Text} {values : Values}
    {rendered : Rendered} {middle : Progress}
    (ran : (Stencil.render (session.setup clock values) text).run { issues := session.issues } =
      (.ok rendered, middle)) :
    (session.render clock text values).1 = .ok rendered.output := by
  rw [render, renderKeeping_eq_finish]
  exact congrArg (fun outcome => (finish _ text values outcome).1) ran

variable {session after : Session} {clock : Int} {text output : Text} {values : Values}

theorem renderKeeping_outcome (session : Session)
    (success : session.renderKeeping clock text values = (.ok output, after)) :
    ∃ replacements, after.snapshot = some ⟨replacements, scan text, values, text⟩ ∧
      output = replacements.substitute text ∧
      Replacements.Covers session.settings.fallback (scan text) replacements := by
  rw [renderKeeping] at success
  split at success
  next result progress ran =>
  cases result with
  | error failure => cases success
  | ok rendered =>
    obtain ⟨covers, same⟩ := renderWithin_returns _ _ _ _ _ _ _ ran
    simp only at success
    cases success
    refine ⟨rendered.replacements, ?_, ?_, covers⟩
    · rw [same]
    · rw [same]

/-- **The outcome of a render**: the replacements are kept in the snapshot, and the output is
the template with the placeholders replaced. -/
theorem render_outcome (success : session.render clock text values = (.ok output, after)) :
    ∃ replacements, after.snapshot = some ⟨replacements, scan text, values, text⟩ ∧
      output = replacements.substitute text ∧
      Replacements.Covers session.settings.fallback (scan text) replacements :=
  renderKeeping_outcome { session with globals := [] } success

end Session

/-! ## Replacements of placeholders -/

namespace Replacements

variable {replacements : Replacements} {fallback : Fallback} {text : Text}

/-- Replaced placeholders are delimited spans. -/
theorem OfSpans.of_scan (known : ∀ r ∈ replacements, ∃ p ∈ scan text, p.raw = r.1) :
    OfSpans replacements := by
  intro r hr
  obtain ⟨p, hp, same⟩ := known r hr
  obtain ⟨inner, body, delimits⟩ := Markup.delimits_of_mem_scan hp
  exact ⟨p.toSpan, inner, body, delimits, same⟩

/-- **What is replaced** are delimited spans. -/
theorem Covers.ofSpans (covers : Covers fallback (scan text) replacements) :
    OfSpans replacements :=
  .of_scan fun _ hr => List.mem_map.mp (covers.sublist.subset (List.mem_map_of_mem hr))

/-- With a fallback there is a replacement for every placeholder. -/
theorem Covers.lookup_isSome (covers : Covers fallback (scan text) replacements)
    (given : fallback ≠ .keep) : ∀ p ∈ scan text, (replacements.lookup p.raw).isSome := by
  intro p hp
  have raw : p.raw ∈ replacements.map Prod.fst := by
    rw [covers.all_of_fallback given]
    exact List.mem_map_of_mem hp
  obtain ⟨r, hr, same⟩ := List.mem_map.mp raw
  rw [← same, Option.isSome_iff_ne_none, ne_eq, List.lookup_eq_none_iff]
  intro absent
  simpa using absent r hr

end Replacements

end Stencil
