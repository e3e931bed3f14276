import Stencil.Proofs.Files.Confined
import Stencil.Proofs.Render.Compositional
import Stencil.Render.Session

/-!
# Imports stay inside the directory of templates

The trail of a render tells what it searched for placeholders and what it asked its loader for.
A loader is asked for paths of names only, and only texts that it returned, apart from the
template itself, are searched: no supplied value becomes a template. An import that leaves the
directory of templates ends the render before a loader is asked for it.

## Main definitions

* `Sourced setup template trail text`: `text` stands in the template or in a loaded text
* `Orderly setup template trail`: all events of a trail are permitted where they happen
* `Confined`: a part of a render keeps a trail orderly, or ends with an import that leaves
* `Agrees`, `Tracked`: what differs between two loaders shows in the trail

## Main results

* `confined_renderWithin`: a render at any level is confined
* `tracked_renderWithin`: the trail names all that a loader is asked for
* `render_confined`: the two for a whole render
-/

namespace Stencil

open FilePath (IsOrdinary Leaves)

/-! ## Orderly trails -/

section Trail

variable (setup : Setup) (template : Text)

/-- `text` stands in the template, or in a text that was loaded before according to `trail`. -/
def Sourced (trail : List RenderEvent) (text : Text) : Prop :=
  text <:+: template ∨ ∃ root path content, setup.settings.templateRoot = some root ∧
    .loading path ∈ trail ∧ setup.loader root path = .ok content ∧ text <:+: content

/-- What may happen after the events of `earlier`: a text with a source is searched, an import
that does not leave is evaluated, a path of names is loaded, and conditions are tested. -/
def Permitted (earlier : List RenderEvent) : RenderEvent → Prop
  | .scanned text => Sourced setup template earlier text
  | .importing target => ∀ root, setup.settings.templateRoot = some root → ¬ Leaves target
  | .loading path => IsOrdinary path
  | .tested _ => True

/-- Every event was permitted when it happened; the latest one stands first. -/
def Orderly : List RenderEvent → Prop
  | [] => True
  | event :: earlier => Permitted setup template earlier event ∧ Orderly earlier

variable {setup template} {trail earlier later : List RenderEvent} {event : RenderEvent}
  {text inner : Text}

theorem Sourced.of_part (h : Sourced setup template trail text) (inside : inner <:+: text) :
    Sourced setup template trail inner := by
  rcases h with h | ⟨root, path, content, hroot, loaded, same, h⟩
  · exact .inl (inside.trans h)
  · exact .inr ⟨root, path, content, hroot, loaded, same, inside.trans h⟩

theorem Sourced.suffix (h : Sourced setup template earlier text) (grows : earlier <:+ trail) :
    Sourced setup template trail text :=
  h.imp_right fun ⟨root, path, content, hroot, loaded, rest⟩ =>
    ⟨root, path, content, hroot, grows.subset loaded, rest⟩

theorem Orderly.permitted (h : Orderly setup template (later ++ event :: earlier)) :
    Permitted setup template earlier event := by
  induction later with
  | nil => exact h.1
  | cons _ later ih => exact ih h.2

end Trail

/-! ## Confined parts -/

/-- The last event is an import that leaves, and it ended the render. -/
def Stopped (setup : Setup) (template : Text) {α : Type}
    (outcome : Except Failure α × Progress) : Prop :=
  ∃ root target earlier, setup.settings.templateRoot = some root ∧ Leaves target ∧
    outcome.2.trail = .importing target :: earlier ∧ Orderly setup template earlier ∧
    outcome.1 = .error (.outsideRoot target root)

/-- Every event was permitted when it happened, unless it is the import that ended the render. -/
theorem permitted_or_last {setup : Setup} {template : Text} {α : Type}
    {outcome : Except Failure α × Progress}
    (h : Orderly setup template outcome.2.trail ∨ Stopped setup template outcome)
    {earlier later : List RenderEvent} {event : RenderEvent}
    (split : outcome.2.trail = later ++ event :: earlier) :
    Permitted setup template earlier event ∨
      ∃ root target, later = [] ∧ setup.settings.templateRoot = some root ∧
        event = .importing target ∧ outcome.1 = .error (.outsideRoot target root) := by
  rcases h with orderly | ⟨root, target, before, hroot, _, last, orderly, failed⟩
  · rw [split] at orderly
    exact .inl orderly.permitted
  · rw [split] at last
    cases later with
    | nil =>
      obtain ⟨rfl, rfl⟩ := List.cons_eq_cons.mp last
      exact .inr ⟨root, target, rfl, hroot, rfl, failed⟩
    | cons _ later =>
      obtain ⟨-, rfl⟩ := List.cons_eq_cons.mp last
      exact .inl orderly.permitted

/-- Started where `text` has a source, the part keeps the trail orderly or stops at an import
that leaves. -/
def Confined (setup : Setup) (template text : Text) {α : Type} (part : Unit → Render α) : Prop :=
  ∀ start, Orderly setup template start.trail → Sourced setup template start.trail text →
    let outcome := (part ()).run start
    start.trail <:+ outcome.2.trail ∧
      (Orderly setup template outcome.2.trail ∨ Stopped setup template outcome)

namespace Confined

variable {setup : Setup} {template text inner : Text} {α β : Type}

/-- A part without events is confined. -/
theorem of_trail_eq {part : Unit → Render α}
    (same : ∀ start, ((part ()).run start).2.trail = start.trail) :
    Confined setup template text part := by
  intro start orderly _
  simp only [same]
  exact ⟨List.suffix_refl _, .inl orderly⟩

/-- A permitted event is confined. -/
theorem note {event : RenderEvent} (permitted : ∀ trail,
      Sourced setup template trail text → Permitted setup template trail event) :
    Confined setup template text fun _ => Render.note event :=
  fun _ orderly sourced =>
    ⟨List.suffix_cons _ _, .inl ⟨permitted _ sourced, orderly⟩⟩

/-- **One part after the other.** A part that stops leaves nothing to the next one. -/
theorem bind {part : Unit → Render α} {next : Unit → α → Render β}
    (first : Confined setup template text part)
    (second : ∀ a, Confined setup template text fun i => next i a) :
    Confined setup template text fun i => part i >>= next i := by
  intro start orderly sourced
  have here := first start orderly sourced
  rw [Render.run_bind]
  rcases ran : (part ()).run start with ⟨failure | a, middle⟩
  · rw [ran] at here
    refine ⟨here.1, here.2.imp_right ?_⟩
    rintro ⟨root, target, earlier, hroot, leaves, same, before, failed⟩
    exact ⟨root, target, earlier, hroot, leaves, same, before,
      congrArg Except.error (Except.error.inj failed)⟩
  · rw [ran] at here
    obtain ⟨grows, orderly | ⟨_, _, _, _, _, _, _, absurd⟩⟩ := here
    · have there := second a middle orderly (sourced.suffix grows)
      exact ⟨grows.trans there.1, there.2⟩
    · cases absurd

theorem widen {part : Unit → Render α} (h : Confined setup template text part)
    (inside : text <:+: inner) : Confined setup template inner part :=
  fun start orderly sourced => h start orderly (sourced.of_part inside)

theorem compositional (setup : Setup) (template text : Text) :
    Compositional setup (fun _ => setup.unvaried) (fun _ => True)
      (Confined setup template text) where
  pure _ := of_trail_eq fun _ => rfl
  bind := bind
  env _ := of_trail_eq fun _ => rfl
  assign _ _ := of_trail_eq fun _ => rfl
  complain _ _ := of_trail_eq fun _ => by rw [Render.run_complain]
  tested _ := note fun _ _ => trivial

end Confined

/-- **An import is confined** if all texts are rendered so: what the loader returned has a
source when it is rendered. -/
theorem Fill.confined_inclusion (setup : Setup) (template text : Text) {nested : Nested}
    (locals : Scope) (h : ∀ content, Confined setup template content fun _ => nested locals content)
    (directive : Text) :
    Confined setup template text fun _ => inclusion setup nested locals directive := by
  intro start orderly _
  by_cases leaves : Leaves (importTarget directive)
  · cases hroot : setup.settings.templateRoot with
    | none =>
      rw [run_inclusion_of_none start hroot]
      refine ⟨List.suffix_cons _ _, .inl ⟨?_, orderly⟩⟩
      intro root same
      rw [hroot] at same
      cases same
    | some root =>
      rw [run_inclusion_of_refused start hroot (confinedImport_of_leaves leaves)]
      exact ⟨List.suffix_cons _ _,
        .inr ⟨root, importTarget directive, start.trail, hroot, leaves, rfl, orderly, rfl⟩⟩
  have importing : Orderly setup template (.importing (importTarget directive) :: start.trail) :=
    ⟨fun _ _ => leaves, orderly⟩
  have loading {root path : Text}
      (confined : confinedImport root (importTarget directive) = .ok path) :
      Orderly setup template
        (.loading path :: .importing (importTarget directive) :: start.trail) :=
    ⟨isOrdinary_of_confinedImport confined, importing⟩
  have grows (path : Text) : start.trail <:+
      .loading path :: .importing (importTarget directive) :: start.trail :=
    (List.suffix_cons _ _).trans (List.suffix_cons _ _)
  cases importCase setup directive with
  | noRoot hroot =>
    rw [run_inclusion_of_none start hroot]
    exact ⟨List.suffix_cons _ _, .inl importing⟩
  | refused hroot refused =>
    rw [run_inclusion_of_refused start hroot refused]
    exact ⟨List.suffix_cons _ _, .inl importing⟩
  | failed hroot confined failed =>
    rw [run_inclusion_of_failed start hroot confined failed]
    exact ⟨grows _, .inl (loading confined)⟩
  | @loaded root path content hroot confined loaded =>
    rw [run_inclusion_of_loaded start hroot confined loaded]
    have inside := (Confined.compositional setup template content).returning (h content)
      fun rendered => some rendered.output
    have source : Sourced setup template
        (.loading path :: .importing (importTarget directive) :: start.trail) content :=
      .inr ⟨root, path, content, hroot, List.mem_cons_self .., loaded, List.infix_refl _⟩
    obtain ⟨later, outcome⟩ := inside { start with trail := _ } (loading confined) source
    exact ⟨(grows path).trans later, outcome⟩

/-- **A render of a text is confined** at any level. -/
theorem confined_renderWithin (setup : Setup) (template : Text) (levels : Nat) (locals : Scope)
    (text : Text) :
    Confined setup template text fun _ => renderWithin setup levels locals text := by
  induction levels generalizing locals text with
  | zero => exact Confined.of_trail_eq fun _ => rfl
  | succ levels ih =>
    have step := (Confined.compositional setup template text).renderWithin_succ locals
      (fun _ => levels) (Confined.note fun _ sourced => sourced)
    simp only [Setup.vary_unvaried] at step
    refine step fun p mem => ?_
    refine (Confined.compositional setup template text).placeholder locals
      (fun _ _ _ _ => trivial) ?_ fun _ => ?_
    · intro locals inner encloses
      exact (ih locals inner).widen (encloses.isInfix.trans (Markup.infix_of_mem_scan mem))
    · exact Fill.confined_inclusion setup template text locals (fun content => ih locals content)
        p.directive

/-! ## Tracked parts -/

/-- Another loader answers as the one of the setup for all loads of a trail. -/
def Agrees (setup : Setup) (loader : Loader) (trail : List RenderEvent) : Prop :=
  ∀ root path, setup.settings.templateRoot = some root → .loading path ∈ trail →
    loader root path = setup.loader root path

theorem Agrees.of_suffix {setup : Setup} {loader : Loader} {earlier trail : List RenderEvent}
    (h : Agrees setup loader trail) (grows : earlier <:+ trail) : Agrees setup loader earlier :=
  fun root path hroot loaded => h root path hroot (grows.subset loaded)

/-- The part, given with the loader of the setup (`false`) and with another one (`true`), runs
alike if the two agree on the loads that the first run adds to the trail. -/
def Tracked (setup : Setup) (loader : Loader) {α : Type} (part : Bool → Render α) : Prop :=
  ∀ start, let outcome := (part false).run start
    start.trail <:+ outcome.2.trail ∧
      (Agrees setup loader outcome.2.trail → (part true).run start = outcome)

namespace Tracked

variable {setup : Setup} {loader : Loader} {α β : Type}

/-- A part without a loader is tracked if it keeps the trail. -/
theorem constant {part : Render α} (grows : ∀ start, start.trail <:+ (part.run start).2.trail) :
    Tracked setup loader fun _ => part :=
  fun start => ⟨grows start, fun _ => rfl⟩

/-- **One part after the other.** All that the first part loaded is still in the trail. -/
theorem bind {part : Bool → Render α} {next : Bool → α → Render β}
    (first : Tracked setup loader part) (second : ∀ a, Tracked setup loader fun i => next i a) :
    Tracked setup loader fun i => part i >>= next i := by
  intro start
  have here := first start
  simp only [Render.run_bind]
  rcases ran : (part false).run start with ⟨failure | a, middle⟩
  · rw [ran] at here
    exact ⟨here.1, fun agrees => by rw [here.2 agrees]⟩
  · rw [ran] at here
    have there := second a middle
    refine ⟨here.1.trans there.1, fun agrees => ?_⟩
    rw [here.2 (agrees.of_suffix there.1)]
    exact there.2 agrees

/-- The loader of the setup and another one, as variations of the setup. -/
def loaders (setup : Setup) (loader : Loader) (other : Bool) : Variation :=
  ⟨setup.settings.recordIssues, setup.settings.maxDepth, if other then loader else setup.loader⟩

theorem compositional (setup : Setup) (loader : Loader) :
    Compositional setup (loaders setup loader) (fun _ => True) (Tracked setup loader) where
  pure _ := constant fun _ => List.suffix_refl _
  bind := bind
  env _ := constant fun _ => List.suffix_refl _
  assign _ _ := constant fun _ => List.suffix_refl _
  complain _ _ := constant fun _ => by rw [Render.run_complain]
  tested _ := constant fun _ => List.suffix_cons _ _

end Tracked

/-- **An import is tracked** if all texts are rendered so: the load is noted before the loader is
asked. -/
theorem Fill.tracked_inclusion (setup : Setup) (loader : Loader) {nested : Bool → Nested}
    (locals : Scope) (h : ∀ content, Tracked setup loader fun i => nested i locals content)
    (directive : Text) :
    Tracked setup loader fun i =>
      inclusion (setup.vary (Tracked.loaders setup loader i)) (nested i) locals directive := by
  intro start
  have hroots {root? : Option Text} (hroot : setup.settings.templateRoot = root?) (i : Bool) :
      (setup.vary (Tracked.loaders setup loader i)).settings.templateRoot = root? := hroot
  have grows (path : Text) : start.trail <:+
      .loading path :: .importing (importTarget directive) :: start.trail :=
    (List.suffix_cons _ _).trans (List.suffix_cons _ _)
  -- the load stands in the trail already, so the other loader has to agree on it
  have mem (path : Text) : .loading path ∈
      RenderEvent.loading path :: .importing (importTarget directive) :: start.trail :=
    List.mem_cons_self ..
  cases importCase setup directive with
  | noRoot hroot =>
    simp only [run_inclusion_of_none start (hroots hroot _)]
    exact ⟨List.suffix_cons _ _, fun _ => trivial⟩
  | refused hroot refused =>
    simp only [run_inclusion_of_refused start (hroots hroot _) refused]
    exact ⟨List.suffix_cons _ _, fun _ => trivial⟩
  | @failed root path failure hroot confined failed =>
    have own : (setup.vary (Tracked.loaders setup loader false)).loader root path =
        .error failure := failed
    rw [run_inclusion_of_failed start (hroots hroot false) confined own]
    refine ⟨grows path, fun agrees => ?_⟩
    exact run_inclusion_of_failed start (hroots hroot true) confined
      ((agrees root path hroot (mem path)).trans failed)
  | @loaded root path content hroot confined loaded =>
    have own : (setup.vary (Tracked.loaders setup loader false)).loader root path =
        .ok content := loaded
    rw [run_inclusion_of_loaded start (hroots hroot false) confined own]
    obtain ⟨later, alike⟩ := (Tracked.compositional setup loader).returning (h content)
      (fun rendered => some rendered.output) { start with trail := _ }
    refine ⟨(grows path).trans later, fun agrees => ?_⟩
    rw [run_inclusion_of_loaded start (hroots hroot true) confined
      ((agrees root path hroot (later.subset (mem path))).trans loaded)]
    exact alike agrees

/-- **A render of a text is tracked** at any level. -/
theorem tracked_renderWithin (setup : Setup) (loader : Loader) (levels : Nat) (locals : Scope)
    (text : Text) :
    Tracked setup loader fun i =>
      renderWithin (setup.vary (Tracked.loaders setup loader i)) levels locals text := by
  induction levels generalizing locals text with
  | zero => exact Tracked.constant fun _ => List.suffix_refl _
  | succ levels ih =>
    have compositional := Tracked.compositional setup loader
    refine compositional.renderWithin_succ locals (fun _ => levels)
      (Tracked.constant fun _ => List.suffix_cons _ _) fun p _ => ?_
    refine compositional.placeholder locals (fun _ _ _ _ => trivial)
      (fun locals inner _ => ih locals inner) fun _ => ?_
    exact Fill.tracked_inclusion setup loader locals (fun content => ih locals content) p.directive

/-! ## Whole renders -/

section Render

variable (setup : Setup) (template : Text) (globals : Scope) (issues : List Issue)

/-- The trail of a render is orderly, up to an import that leaves and ends it. -/
theorem confined_render :
    let run := (render setup template).run { globals, issues }
    Orderly setup template run.2.trail ∨ Stopped setup template run :=
  (confined_renderWithin setup template (setup.settings.maxDepth + 1) [] template
    { globals, issues } trivial (.inl (List.infix_refl _))).2

/-- A loader is asked for paths of names only. -/
theorem isOrdinary_of_loading {path : Text}
    (mem : .loading path ∈ ((render setup template).run { globals, issues }).2.trail) :
    IsOrdinary path := by
  obtain ⟨later, earlier, split⟩ := List.append_of_mem mem
  rcases permitted_or_last (confined_render setup template globals issues) split with
    permitted | ⟨_, _, _, _, other, _⟩
  · exact permitted
  · cases other

/-- A loader that answers all loads of a render alike gives the same render. -/
theorem run_render_of_agrees {loader : Loader}
    (agrees : Agrees setup loader ((render setup template).run { globals, issues }).2.trail) :
    (render { setup with loader } template).run { globals, issues } =
      (render setup template).run { globals, issues } :=
  (tracked_renderWithin setup loader (setup.settings.maxDepth + 1) [] template
    { globals, issues }).2 agrees

end Render

/-- **Imports stay inside the directory of templates.** Whatever the template, the supplied values
and the loader are, a render asks its loader for paths of names only, and the trail tells all that
it asks for: another loader that answers these loads alike gives the same render. Only texts that
stand in the template or in a text loaded before are searched for placeholders. The first import
that leaves the directory of templates ends the render, and no load follows. -/
theorem render_confined (setup : Setup) (template : Text) (globals : Scope)
    (issues : List Issue) :
    let run := (render setup template).run { globals, issues }
    (∀ path, .loading path ∈ run.2.trail → IsOrdinary path) ∧
    (∀ loader, Agrees setup loader run.2.trail →
      (render { setup with loader } template).run { globals, issues } = run) ∧
    (∀ text earlier later, run.2.trail = later ++ .scanned text :: earlier →
      Sourced setup template earlier text) ∧
    (∀ root target earlier later, setup.settings.templateRoot = some root →
      run.2.trail = later ++ .importing target :: earlier → Leaves target →
        later = [] ∧ run.1 = .error (.outsideRoot target root)) := by
  intro run
  have events {event : RenderEvent} {earlier later : List RenderEvent}
      (split : run.2.trail = later ++ event :: earlier) :=
    permitted_or_last (confined_render setup template globals issues) split
  refine ⟨?_, ?_, ?_, ?_⟩
  · exact fun path mem => isOrdinary_of_loading setup template globals issues mem
  · exact fun loader agrees => run_render_of_agrees setup template globals issues agrees
  · intro text earlier later split
    rcases events split with permitted | ⟨_, _, _, _, other, _⟩
    · exact permitted
    · cases other
  · -- an import that leaves is never permitted, so it was the last event
    intro root target earlier later hroot split leaves
    rcases events split with permitted | ⟨_, _, last, hroot', same, failed⟩
    · exact absurd leaves (permitted root hroot)
    · cases same
      rw [hroot, Option.some.injEq] at hroot'
      exact ⟨last, hroot' ▸ failed⟩

/-- An imported text climbs out of the directory of templates, inside a loop. The value that stands
in front of this import looks like an import itself, but is never read as one. -/
theorem render_confined_of_climbing_in_loop :
    let tag (inner : String) : Text := Markup.opening ++ inner.toList ++ Markup.closing
    let settings : Settings := { templateRoot := some "t".toList }
    let loader := Loader.ofTemplates [("a".toList, tag " x " ++ tag " import ../b ")]
    let values : Values := [("xs".toList, .list [.text (tag " import /c ")])]
    let template := tag " for x in xs " ++ tag " import a " ++ tag " endfor "
    let run := (render (({ settings, loader } : Session).setup 0 values) template).run {}
    run.2.trail.head? = some (.importing "../b".toList) ∧
      run.1 = .error (.outsideRoot "../b".toList "t".toList) := by
  intro tag settings loader values template run
  have last : run.2.trail.head? = some (.importing "../b".toList) := by decide +kernel
  obtain ⟨earlier, split⟩ := List.head?_eq_some_iff.mp last
  have leaves : Leaves "../b".toList := FilePath.confine?_eq_none_iff.mp (by decide +kernel)
  obtain ⟨-, -, -, stops⟩ := render_confined (({ settings, loader } : Session).setup 0 values)
    template [] []
  exact ⟨last, (stops "t".toList "../b".toList earlier [] rfl split leaves).2⟩

end Stencil
