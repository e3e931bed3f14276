import Stencil.Proofs.Render.Compositional
import Stencil.Proofs.Render.Outcome

/-!
# The limit on nesting

Blocks, rounds and imports are rendered one level deeper, and a render ends where the level
passes the limit of the settings. That is all the limit does: under a lower limit a render either
runs into it or does the same, step by step, as under a higher one. A chain of imports needs as
many levels as it has imports.

## Main definitions

* `Curtailed lower part`: with the lower of two limits a part runs into it or does the same
* `Unfailing`, `Failing`: how a part of a render ends from every progress
* `ImportChain root loader k text`: `k` imports, one after the other, lead from `text` to a text
  without imports and blocks

## Main results

* `curtailed_renderWithin`: a render at any level is curtailed
* `ImportChain.unfailing`, `ImportChain.failing`: a chain needs a level for each import
* `Session.render_limited`: the two for renders of a session
-/

namespace Stencil

/-! ## Two limits -/

/-- The part, given with a lower limit (`false`) and with a higher one (`true`), runs into the
lower limit or does the same with both. -/
def Curtailed (lower : Nat) {α : Type} (part : Bool → Render α) : Prop :=
  ∀ start, (∃ middle, (part false).run start = (.error (.tooDeep lower), middle)) ∨
    (part false).run start = (part true).run start

namespace Curtailed

variable {lower : Nat} {α β : Type}

/-- A part that does not see the limit. -/
theorem constant (part : Render α) : Curtailed lower fun _ => part := fun _ => .inr rfl

/-- **One part after the other.** The second part starts alike, if it starts at all. -/
theorem bind {part : Bool → Render α} {next : Bool → α → Render β} (first : Curtailed lower part)
    (second : ∀ a, Curtailed lower fun i => next i a) :
    Curtailed lower fun i => part i >>= next i := by
  intro start
  simp only [Render.run_bind]
  rcases first start with ⟨middle, deep⟩ | same
  · exact .inl ⟨middle, by rw [deep]⟩
  · rw [← same]
    rcases (part false).run start with ⟨failure | a, middle⟩
    · exact .inr rfl
    · exact second a middle

/-- Two limits, as variations of a setup. -/
def limits (setup : Setup) (lower higher : Nat) (high : Bool) : Variation :=
  ⟨setup.settings.recordIssues, if high then higher else lower, setup.loader⟩

theorem compositional (setup : Setup) (lower higher : Nat) :
    Compositional setup (limits setup lower higher) (fun _ => True) (Curtailed lower) where
  pure _ := constant _
  bind := bind
  env _ := constant _
  assign _ _ := constant _
  complain _ _ := constant _
  tested _ := constant _

end Curtailed

/-- **A render of a text is curtailed** if more levels are left under the higher limit. -/
theorem curtailed_renderWithin (setup : Setup) (lower higher levels extra : Nat) (locals : Scope)
    (text : Text) :
    Curtailed lower fun i => renderWithin (setup.vary (Curtailed.limits setup lower higher i))
      (levels + if i then extra else 0) locals text := by
  -- the extra levels stay on top, so both renders lose one level at every step
  induction levels generalizing locals text with
  | zero => exact fun start => .inl ⟨start, rfl⟩
  | succ levels ih =>
    simp only [Nat.add_right_comm levels 1]
    have compositional := Curtailed.compositional setup lower higher
    refine compositional.renderWithin_succ locals (fun i => levels + if i then extra else 0)
      (Curtailed.constant _) fun p _ => ?_
    refine compositional.placeholder locals (fun _ _ _ _ => trivial)
      (fun locals inner _ => ih locals inner) fun _ => ?_
    exact compositional.inclusion locals (fun _ => rfl) (fun _ => Curtailed.constant _)
      (fun _ => Curtailed.constant _) fun _ _ content _ _ _ => ih locals content

/-- **A render is curtailed.** -/
theorem curtailed_render (setup : Setup) {lower higher : Nat} (h : lower ≤ higher) (text : Text) :
    Curtailed lower fun i => render (setup.vary (Curtailed.limits setup lower higher i)) text := by
  obtain ⟨extra, rfl⟩ := Nat.exists_eq_add_of_le h
  have curtailed := curtailed_renderWithin setup lower (lower + extra) (lower + 1) extra [] text
  simp only [Nat.add_right_comm lower 1] at curtailed
  have same (i : Bool) : render (setup.vary (Curtailed.limits setup lower (lower + extra) i)) text =
      renderWithin (setup.vary (Curtailed.limits setup lower (lower + extra) i))
        (lower + (if i then extra else 0) + 1) [] text := by
    cases i <;> rfl
  simpa only [same] using curtailed

/-! ## How a part ends -/

/-- The part returns something, whatever the progress is. -/
def Unfailing {α : Type} (part : Render α) : Prop :=
  ∀ start, ∃ a middle, part.run start = (.ok a, middle)

/-- The part fails in the given way, whatever the progress is. -/
def Failing (failure : Failure) {α : Type} (part : Render α) : Prop :=
  ∀ start, ∃ middle, part.run start = (.error failure, middle)

section Ends

variable {failure : Failure} {α β : Type} {part : Render α} {next : α → Render β}

theorem Unfailing.bind (first : Unfailing part) (second : ∀ a, Unfailing (next a)) :
    Unfailing (part >>= next) := by
  intro start
  obtain ⟨a, middle, ran⟩ := first start
  rw [Render.run_bind, ran]
  exact second a middle

theorem Failing.bind (first : Failing failure part) : Failing failure (part >>= next) := by
  intro start
  obtain ⟨middle, ran⟩ := first start
  exact ⟨middle, by rw [Render.run_bind, ran]⟩

theorem Failing.after (first : Unfailing part) (second : ∀ a, Failing failure (next a)) :
    Failing failure (part >>= next) := by
  intro start
  obtain ⟨a, middle, ran⟩ := first start
  rw [Render.run_bind, ran]
  exact second a middle

theorem Unfailing.pure (a : α) : Unfailing (Pure.pure a) := fun start => ⟨a, start, rfl⟩

end Ends

/-! ## Placeholders without levels -/

/-- The placeholder renders no further text. -/
def Markup.Placeholder.IsFlat (placeholder : Markup.Placeholder) : Prop :=
  placeholder.kind = .simple ∨ placeholder.kind = .assignment

namespace Fill

variable {setup : Setup} {nested : Nested} {locals : Scope} {failure : Failure}
  {p : Markup.Placeholder} {ps : List Markup.Placeholder}

/-- What no placeholder can see, as it is in the setup. -/
theorem compositional_unfailing (setup : Setup) :
    Compositional setup (fun _ : Unit => setup.unvaried) (fun _ => True)
      (fun part => Unfailing (part ())) where
  pure := Unfailing.pure
  bind := Unfailing.bind
  env _ start := ⟨_, start, rfl⟩
  assign _ _ _ := ⟨_, _, rfl⟩
  complain _ _ _ := ⟨_, _, Render.run_complain ..⟩
  tested _ _ := ⟨_, _, rfl⟩

/-- Values and assignments complain where they fail, but do not end a render. -/
theorem unfailing_placeholder (flat : p.IsFlat) :
    Unfailing (placeholder setup nested locals p) := by
  rw [placeholder]
  rcases flat with kind | kind
  · rw [kind]
    exact (compositional_unfailing setup).simple locals p.directive
  · rw [kind]
    exact (compositional_unfailing setup).assignment locals fun _ _ _ => trivial

theorem unfailing_placeholders (h : ∀ p ∈ ps, Unfailing (placeholder setup nested locals p)) :
    Unfailing (placeholders setup nested locals ps) := by
  induction ps with
  | nil => exact Unfailing.pure []
  | cons first rest ih =>
    obtain ⟨here, later⟩ := List.forall_mem_cons.mp h
    refine here.bind fun text? => (ih later).bind fun found => ?_
    split <;> exact Unfailing.pure _

/-- Placeholders fail if one of them does and all in front of it return. -/
theorem failing_placeholders (mem : p ∈ ps)
    (fails : Failing failure (placeholder setup nested locals p))
    (h : ∀ q ∈ ps, q ≠ p → Unfailing (placeholder setup nested locals q)) :
    Failing failure (placeholders setup nested locals ps) := by
  induction ps with
  | nil => cases mem
  | cons first rest ih =>
    obtain ⟨here, later⟩ := List.forall_mem_cons.mp h
    by_cases same : first = p
    · subst same
      exact fails.bind
    · have behind := ih ((List.mem_cons.mp mem).resolve_left (Ne.symm same)) later
      exact Failing.after (here same) fun text? => behind.bind

section Text

variable {text : Text} {levels : Nat}

/-- A text returns if its placeholders do, one level deeper. -/
theorem unfailing_text (h : ∀ p ∈ Markup.scan text,
      Unfailing (placeholder setup (renderWithin setup levels) locals p)) :
    Unfailing (renderWithin setup (levels + 1) locals text) :=
  Unfailing.bind (fun _ => ⟨_, _, rfl⟩) fun _ =>
    (unfailing_placeholders h).bind fun _ => Unfailing.pure _

/-- A text fails if one of its placeholders does, and the others return. -/
theorem failing_text (mem : p ∈ Markup.scan text)
    (fails : Failing failure (placeholder setup (renderWithin setup levels) locals p))
    (h : ∀ q ∈ Markup.scan text, q ≠ p →
      Unfailing (placeholder setup (renderWithin setup levels) locals q)) :
    Failing failure (renderWithin setup (levels + 1) locals text) :=
  Failing.after (fun _ => ⟨_, _, rfl⟩) fun _ => (failing_placeholders mem fails h).bind

end Text

section Import

variable {root path content : Text} (hroot : setup.settings.templateRoot = some root)
  (kind : p.kind = .inclusion)
  (confined : confinedImport root (importTarget p.directive) = .ok path)
  (loaded : setup.loader root path = .ok content)
include hroot kind confined loaded

theorem unfailing_import (h : Unfailing (nested locals content)) :
    Unfailing (placeholder setup nested locals p) := by
  intro start
  simp only [placeholder, kind]
  rw [run_inclusion_of_loaded start hroot confined loaded]
  exact h.bind (fun rendered => Unfailing.pure (some rendered.output)) _

theorem failing_import (h : Failing failure (nested locals content)) :
    Failing failure (placeholder setup nested locals p) := by
  intro start
  simp only [placeholder, kind]
  rw [run_inclusion_of_loaded start hroot confined loaded]
  exact h.bind _

end Import

end Fill

/-! ## Chains of imports -/

/-- `k` imports, one after the other, lead from the text to one without imports and blocks. Each
text has one import; values and assignments may stand beside it. -/
inductive ImportChain (root : Text) (loader : Loader) : (k : Nat) → (text : Text) → Prop
  | last {text : Text} (flat : ∀ q ∈ Markup.scan text, q.IsFlat) : ImportChain root loader 0 text
  | next {k : Nat} {text path content : Text} {p : Markup.Placeholder}
      (mem : p ∈ Markup.scan text) (kind : p.kind = .inclusion)
      (flat : ∀ q ∈ Markup.scan text, q ≠ p → q.IsFlat)
      (confined : confinedImport root (Fill.importTarget p.directive) = .ok path)
      (loaded : loader root path = .ok content) (rest : ImportChain root loader k content) :
      ImportChain root loader (k + 1) text

namespace ImportChain

/-- A plain text ends a chain. -/
theorem of_plain {root text : Text} {loader : Loader} (h : Markup.scan text = []) :
    ImportChain root loader 0 text :=
  .last fun _ mem => absurd mem (h ▸ List.not_mem_nil)

/-- A text that has an import for its only placeholder. -/
theorem of_import {root text path content : Text} {loader : Loader} {k : Nat}
    {p : Markup.Placeholder} (h : Markup.scan text = [p]) (kind : p.kind = .inclusion)
    (confined : confinedImport root (Fill.importTarget p.directive) = .ok path)
    (loaded : loader root path = .ok content) (rest : ImportChain root loader k content) :
    ImportChain root loader (k + 1) text :=
  .next (h ▸ List.mem_singleton_self p) kind
    (fun _ mem other => absurd (List.mem_singleton.mp (h ▸ mem)) other) confined loaded rest

variable {setup : Setup} {root text : Text} {k levels : Nat}

/-- **A chain with more levels than imports** returns. -/
theorem unfailing (hroot : setup.settings.templateRoot = some root)
    (chain : ImportChain root setup.loader k text) (enough : k < levels) (locals : Scope) :
    Unfailing (renderWithin setup levels locals text) := by
  obtain ⟨levels, rfl⟩ := Nat.exists_eq_add_one_of_ne_zero (Nat.ne_zero_of_lt enough)
  induction chain generalizing levels locals with
  | last flat => exact Fill.unfailing_text fun q mem => Fill.unfailing_placeholder (flat q mem)
  | @next k _ _ _ p mem kind flat confined loaded rest ih =>
    obtain ⟨levels, rfl⟩ := Nat.exists_eq_add_one_of_ne_zero (show levels ≠ 0 by omega)
    refine Fill.unfailing_text ?_
    intro q mem
    by_cases same : q = p
    · subst same
      exact Fill.unfailing_import hroot kind confined loaded
        (ih locals levels (Nat.lt_of_succ_lt_succ enough))
    · exact Fill.unfailing_placeholder (flat q mem same)

/-- **A chain with as many imports as levels** runs into the limit. -/
theorem failing (hroot : setup.settings.templateRoot = some root)
    (chain : ImportChain root setup.loader k text) (few : levels ≤ k) (locals : Scope) :
    Failing (.tooDeep setup.settings.maxDepth) (renderWithin setup levels locals text) := by
  -- every import takes a level, so no level is left at the last text or before
  induction chain generalizing levels locals with
  | last flat =>
    obtain rfl := Nat.le_zero.mp few
    exact fun start => ⟨start, rfl⟩
  | next mem kind flat confined loaded rest ih =>
    cases levels with
    | zero => exact fun start => ⟨start, rfl⟩
    | succ levels =>
      exact Fill.failing_text mem
        (Fill.failing_import hroot kind confined loaded (ih (Nat.le_of_succ_le_succ few) locals))
        fun q mem other => Fill.unfailing_placeholder (flat q mem other)

end ImportChain

/-! ## Renders of a session -/

namespace Session

/-- The session with another limit on nesting. -/
def limited (session : Session) (limit : Nat) : Session :=
  session.configure { session.settings with maxDepth := limit }

variable (session : Session) (clock : Int) (values : Values)

/-- A render that starts from the variables of the render before, under two limits. -/
theorem renderKeeping_limited {lower higher : Nat} (h : lower ≤ higher) (text : Text) :
    let shallow := (session.limited lower).renderKeeping clock text values
    let deep := (session.limited higher).renderKeeping clock text values
    shallow.1 = .error (.tooDeep lower) ∨
      (shallow.1 = deep.1 ∧ shallow.2.issues = deep.2.issues ∧
        shallow.2.globals = deep.2.globals ∧ shallow.2.snapshot = deep.2.snapshot) := by
  let start : Progress := { globals := session.globals, issues := session.issues }
  have outcome (limit : Nat) : (session.limited limit).renderKeeping clock text values =
      (session.limited limit).finish text values
        ((Stencil.render ((session.limited limit).setup clock values) text).run start) :=
    renderKeeping_eq_finish ..
  rcases curtailed_render (session.setup clock values) h text start with ⟨middle, deep⟩ | same
  · have ran : (Stencil.render ((session.limited lower).setup clock values) text).run start =
        (.error (.tooDeep lower), middle) := deep
    left
    rw [outcome, ran, finish]
  · have ran : (Stencil.render ((session.limited lower).setup clock values) text).run start =
        (Stencil.render ((session.limited higher).setup clock values) text).run start := same
    right
    rw [outcome, outcome, ran]
    rcases (Stencil.render _ text).run start with ⟨failure | rendered, progress⟩
    · exact ⟨rfl, rfl, rfl, rfl⟩
    · exact ⟨rfl, rfl, rfl, rfl⟩

/-- A chain of imports renders exactly if the limit allows a level for each of them. -/
theorem renderKeeping_chain {root text : Text} {k : Nat}
    (hroot : session.settings.templateRoot = some root)
    (chain : ImportChain root session.loader k text) (limit : Nat) :
    (∃ output, ((session.limited limit).renderKeeping clock text values).1 = .ok output) ↔
      k ≤ limit := by
  have alike : ((session.limited limit).setup clock values).settings.templateRoot = some root :=
    hroot
  rw [renderKeeping_eq_finish, Stencil.render]
  constructor
  · rintro ⟨output, returned⟩
    by_contra exceeds
    have few : limit + 1 ≤ k := by omega
    obtain ⟨middle, ran⟩ := ImportChain.failing alike chain few []
      { globals := session.globals, issues := session.issues }
    have failed : (finish (session.limited limit) text values
        (.error (.tooDeep limit), middle)).1 = .ok output := ran ▸ returned
    cases failed
  · intro allowed
    obtain ⟨rendered, middle, ran⟩ := ImportChain.unfailing alike chain
      (Nat.lt_succ_of_le allowed) [] { globals := session.globals, issues := session.issues }
    exact ⟨rendered.output, congrArg (fun outcome => (finish _ text values outcome).1) ran⟩

/-- **The limit only ever ends a render.** Under a lower limit a render runs into it, or gives the
output or the other failure that it gives under a higher one, with the same issues, variables and
snapshot. A text from which `k` imports lead, one after the other, to a text without imports and
blocks is rendered exactly if `k` is within the limit. -/
theorem render_limited :
    (∀ lower higher text, lower ≤ higher →
      let shallow := (session.limited lower).render clock text values
      let deep := (session.limited higher).render clock text values
      shallow.1 = .error (.tooDeep lower) ∨
        (shallow.1 = deep.1 ∧ shallow.2.issues = deep.2.issues ∧
          shallow.2.globals = deep.2.globals ∧ shallow.2.snapshot = deep.2.snapshot)) ∧
    (∀ root k text limit, session.settings.templateRoot = some root →
      ImportChain root session.loader k text →
        ((∃ output, ((session.limited limit).render clock text values).1 = .ok output) ↔
          k ≤ limit)) := by
  let start : Session := { session with globals := [] }
  constructor
  · intro lower higher text h
    exact renderKeeping_limited start clock values h text
  · intro root k text limit hroot chain
    exact renderKeeping_chain start clock values hroot chain limit

/-- Two imports, the second one in an imported text, are one too many for a limit of one. -/
theorem render_limited_of_two_imports :
    let tag (inner : String) : Text := Markup.opening ++ inner.toList ++ Markup.closing
    let session : Session :=
      { settings := { templateRoot := some "t".toList }
        loader := Loader.ofTemplates
          [("a".toList, tag " import b "), ("b".toList, "text".toList)] }
    let rendered (limit : Nat) := ((session.limited limit).render 0 (tag " import a ") []).1
    rendered 1 = .error (.tooDeep 1) ∧ ∃ output, rendered 2 = .ok output := by
  intro tag session rendered
  let placeholder (name : String) : Markup.Placeholder :=
    ⟨⟨tag (" import " ++ name ++ " "), ("import " ++ name).toList, .inclusion⟩, 0⟩
  have last : ImportChain "t".toList session.loader 0 "text".toList :=
    .of_plain (by decide +kernel)
  have second : ImportChain "t".toList session.loader 1 (tag " import b ") :=
    .of_import (p := placeholder "b") (by decide +kernel) rfl rfl rfl last
  have chain : ImportChain "t".toList session.loader 2 (tag " import a ") :=
    .of_import (p := placeholder "a") (by decide +kernel) rfl rfl rfl second
  obtain ⟨limits, chains⟩ := render_limited session 0 []
  have deep : ∃ output, rendered 2 = .ok output := (chains _ 2 _ 2 rfl chain).mpr (le_refl 2)
  have shallow : ¬ ∃ output, rendered 1 = .ok output := fun returned =>
    absurd ((chains _ 2 _ 1 rfl chain).mp returned) (by decide)
  refine ⟨(limits 1 2 _ (by decide)).resolve_right fun ⟨same, _⟩ => shallow ?_, deep⟩
  exact deep.imp fun output returned => same.trans returned

end Session

end Stencil
