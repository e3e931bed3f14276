import Stencil.Proofs.Render.Evaluated
import Stencil.Proofs.Render.Outcome
import Stencil.Proofs.Text.Blank

/-!
# What placeholders show

A simple placeholder shows the text of its pipeline, and an assignment the empty text. Blocks and
imports show what the texts inside them are rendered to, and hand it on as it is; only a loop joins
the texts of its rounds and takes the blanks off the ends. So a property that pipelines give their
texts, and that all of this keeps, is shared by all that a render writes.

## Main definitions

* `Fill.Shows P part`: whatever text the part shows has the property `P`
* `Fill.HandedOn P`: a property that blocks hand on

## Main results

* `Fill.placeholders_filled`: replacements are what placeholders show, or the fallback
* `renderWithin_filled`: so are those of a render
* `Fill.shows_placeholder`: what a placeholder shows has a property that is handed on
* `renderWithin_returns_simple`: what a simple placeholder is replaced by
-/

namespace Stencil

open Markup (Placeholder scan)

open Render (Returns returns_any returns_pure)

namespace Fill

variable {setup : Setup} {nested : Nested} {locals : Scope} {p : Placeholder}
  {ps : List Placeholder}

/-! ## Collected replacements -/

/-- **Replacements are filled** with what placeholders show, or with the fallback. -/
theorem placeholders_filled {Q : Placeholder → Option Text → Prop}
    (each : ∀ p ∈ ps, Returns (placeholder setup nested locals p) (Q p)) :
    Returns (placeholders setup nested locals ps) fun replacements =>
      ∀ r ∈ replacements, ∃ p ∈ ps, p.raw = r.1 ∧
        ∃ text?, Q p text? ∧ text?.or setup.settings.fallback.replacement? = some r.2 := by
  induction ps with
  | nil => exact returns_pure fun r hr => absurd hr List.not_mem_nil
  | cons first rest ih =>
    rw [List.forall_mem_cons] at each
    refine each.1.bind fun text? filled => (ih each.2).bind fun replacements known => ?_
    have later : ∀ r ∈ replacements, ∃ p ∈ first :: rest, p.raw = r.1 ∧
        ∃ text?, Q p text? ∧ text?.or setup.settings.fallback.replacement? = some r.2 := by
      intro r hr
      obtain ⟨p, hp, entry⟩ := known r hr
      exact ⟨p, List.mem_cons_of_mem _ hp, entry⟩
    split
    · next text found =>
      refine returns_pure (List.forall_mem_cons.mpr ⟨?_, later⟩)
      exact ⟨first, List.mem_cons_self, rfl, text?, filled, found⟩
    · exact returns_pure later

/-! ## Texts that are handed on -/

/-- Whatever text the part shows has the property. -/
def Shows (P : Text → Prop) (part : Render (Option Text)) : Prop :=
  Returns part fun text? => ∀ text, text? = some text → P text

/-- A property of texts that blocks hand on: the empty text has it, and the texts of a loop keep
it. -/
structure HandedOn (P : Text → Prop) : Prop where
  nil : P []
  lines : ∀ outputs, (∀ output ∈ outputs, P output) → P (Text.trim (Text.join "\n" outputs))

/-- An assignment has the empty text. -/
theorem assignment_returns (setup : Setup) (locals : Scope) (directive : Text) :
    Returns (assignment setup locals directive) fun text? => text? = some [] := by
  have last {part : Render Unit} :
      Returns (part >>= fun _ => pure (some [])) fun text? : Option Text => text? = some [] :=
    (returns_any _).bind fun _ _ => returns_pure rfl
  unfold assignment
  cases assignmentParts? directive with
  | none => exact last
  | some parts =>
    refine (returns_any _).bind fun env _ => ?_
    split
    · refine (returns_any _).bind fun _ _ => (returns_any _).bind fun env _ => ?_
      cases Assignment.value env.lookup parts.2 <;> exact last
    · refine (returns_any _).bind fun env _ => ?_
      cases Assignment.value env.lookup parts.2 <;> exact last

section Shows

variable {P : Text → Prop}

theorem shows_none : Shows P (pure none) := returns_pure nofun

theorem shows_some {text : Text} (h : P text) : Shows P (pure (some text)) :=
  returns_pure fun _ same => Option.some.inj same ▸ h

theorem shows_output {part : Render Rendered} (h : Returns part fun rendered => P rendered.output) :
    Shows P (part >>= fun rendered => pure (some rendered.output)) :=
  h.bind fun _ written => shows_some written

variable (handedOn : HandedOn P)
include handedOn

/-- A conditional block shows a branch, or nothing. -/
theorem shows_branches (kind : p.kind = .conditional)
    (inside : ∀ text, Encloses p text →
      Returns (nested locals text) fun rendered => P rendered.output)
    {front tags : List Markup.Tag}
    (found : (Markup.tags p.raw).filter isBranchTag = front ++ tags) :
    Shows P (branches setup nested locals p.directive p.raw tags) := by
  induction tags generalizing front with
  | nil => exact shows_some handedOn.nil
  | cons tag tags ih =>
    cases tags with
    | nil => exact shows_some handedOn.nil
    | cons next rest =>
      simp only [branches]
      split
      · exact shows_some handedOn.nil
      · next opens =>
        refine (returns_any _).bind fun taken _ => ?_
        rcases taken with e | - | -
        · exact (returns_any _).bind fun _ _ => shows_none
        · exact ih (found.trans (List.append_cons front tag _))
        · exact shows_output (inside _ (.branch kind found opens))

omit handedOn in
theorem rounds_returns {body : Text}
    (inside : ∀ locals, Returns (nested locals body) fun rendered => P rendered.output)
    (item : Text) (length index : Nat) (values : List Value) :
    Returns (rounds nested locals item body length index values) fun outputs =>
      ∀ output ∈ outputs, P output := by
  induction values generalizing index with
  | nil => exact returns_pure fun output mem => absurd mem List.not_mem_nil
  | cons value rest ih =>
    exact (inside _).bind fun rendered written => (ih _).bind fun outputs all =>
      returns_pure (List.forall_mem_cons.mpr ⟨written, all⟩)

/-- A loop shows the texts of its rounds, or what stands for them. -/
theorem shows_loop (kind : p.kind = .loop)
    (inside : ∀ locals text, Encloses p text →
      Returns (nested locals text) fun rendered => P rendered.output) :
    Shows P (loop setup nested locals p.directive p.raw) := by
  unfold loop
  rcases loopHead? p.directive with - | ⟨item, list⟩
  · exact (returns_any _).bind fun _ _ => shows_none
  cases parts : loopParts? p.raw with
  | none => exact shows_none
  | some found =>
    obtain ⟨body, otherwise⟩ := found
    refine (returns_any _).bind fun env _ => ?_
    rcases loopItems (Path.resolve? env.lookup list) with - | ⟨value, rest⟩
    · rcases otherwise with - | other
      · exact shows_some handedOn.nil
      · exact shows_output (inside _ _ (.otherwise kind parts))
    · refine (rounds_returns (fun locals => ?_) _ _ _ _).bind fun outputs all =>
        shows_some (handedOn.lines outputs all)
      exact inside locals _ (.body kind parts)

omit handedOn in
/-- An import shows the imported template. -/
theorem shows_inclusion (kind : p.kind = .inclusion)
    (inside : ∀ text, Brings setup p text →
      Returns (nested locals text) fun rendered => P rendered.output) :
    Shows P (inclusion setup nested locals p.directive) := by
  intro start stop text? ran
  cases importCase setup p.directive with
  | noRoot hroot =>
    rw [run_inclusion_of_none start hroot] at ran
    cases ran
  | refused hroot refused =>
    rw [run_inclusion_of_refused start hroot refused] at ran
    cases ran
  | failed hroot confined failed =>
    rw [run_inclusion_of_failed start hroot confined failed] at ran
    cases ran
  | @loaded root path content hroot confined loaded =>
    rw [run_inclusion_of_loaded start hroot confined loaded] at ran
    exact shows_output (inside content (.imported kind hroot confined loaded)) _ _ _ ran

/-- **What a placeholder shows** has a property that is handed on, if its pipeline gives it and the
texts that can be rendered inside it have it. -/
theorem shows_placeholder
    (pipelines : p.kind = .simple → Shows P (simple setup locals p.directive))
    (inside : ∀ locals text, Brings setup p text →
      Returns (nested locals text) fun rendered => P rendered.output) :
    Shows P (placeholder setup nested locals p) := by
  have enclosed (locals : Scope) (text : Text) (encloses : Encloses p text) :=
    inside locals text (.enclosed encloses)
  rw [placeholder]
  cases kind : p.kind with
  | simple => exact pipelines kind
  | assignment =>
    intro start stop text? ran text same
    rw [assignment_returns _ _ _ _ _ _ ran, Option.some_inj] at same
    exact same ▸ handedOn.nil
  | conditional => exact shows_branches handedOn kind (enclosed locals) (List.nil_append _).symm
  | loop => exact shows_loop handedOn kind enclosed
  | inclusion => exact shows_inclusion kind (inside locals)

end Shows

/-! ## Simple placeholders -/

/-- A simple placeholder shows the text of its pipeline, with the variables that are set then. -/
theorem placeholder_returns (setup : Setup) (nested : Nested) (locals : Scope) (p : Placeholder) :
    Returns (placeholder setup nested locals p) fun text? => p.kind = .simple → ∃ globals,
      text? = ((pipeline setup locals globals).run p.directive).1.map Value.display := by
  intro start stop text? same simple
  rw [placeholder, simple, run_simple] at same
  cases same
  exact ⟨start.globals, rfl⟩

end Fill

/-- The replacements of a render are filled with what is shown one level further down. -/
theorem renderWithin_filled {setup : Setup} {levels : Nat} {locals : Scope} {text : Text}
    {Q : Placeholder → Option Text → Prop}
    (each : ∀ p ∈ scan text,
      Returns (Fill.placeholder setup (renderWithin setup levels) locals p) (Q p)) :
    Returns (renderWithin setup (levels + 1) locals text) fun rendered =>
      ∀ r ∈ rendered.replacements, ∃ p ∈ scan text, p.raw = r.1 ∧
        ∃ text?, Q p text? ∧ text?.or setup.settings.fallback.replacement? = some r.2 := by
  rw [renderWithin]
  refine (returns_any _).bind fun _ _ => ?_
  exact (Fill.placeholders_filled each).bind fun replacements known => returns_pure known

/-- **A simple placeholder is replaced** by the text of its pipeline, or by the fallback. -/
theorem renderWithin_returns_simple (setup : Setup) (levels : Nat) (locals : Scope) (text : Text) :
    Returns (renderWithin setup levels locals text) fun rendered =>
      ∀ p ∈ scan text, p.kind = .simple →
        ∀ replacement, (p.raw, replacement) ∈ rendered.replacements → ∃ globals,
          (((Fill.pipeline setup locals globals).run p.directive).1.map Value.display).or
            setup.settings.fallback.replacement? = some replacement := by
  intro start stop rendered ran p hp simple replacement mem
  cases levels with
  | zero => cases ran
  | succ levels =>
    have known := renderWithin_filled (fun p _ => Fill.placeholder_returns setup _ locals p) _ _ _ ran
    obtain ⟨q, hq, same, text?, returned, found⟩ := known (p.raw, replacement) mem
    obtain rfl : q = p := Markup.eq_of_raw_eq hq hp same
    obtain ⟨globals, rfl⟩ := returned simple
    exact ⟨globals, found⟩

end Stencil
