import Stencil.Proofs.Render.Part

/-!
# A render, placeholder by placeholder

The placeholders of a text are filled one after the other. A render can be taken up behind any of
them: what is left of it depends on the replacements collected so far and on the progress.

## Main definitions

* `Fill.inside`, `Fill.otherwise`: the part of a block that takes its place
* `Fill.resume`: the render of a text with some of its placeholders filled

## Main results

* `Fill.placeholders_append`: the placeholders of two lists, one list after the other
* `renderWithin_succ`: a render is taken up in front of its first placeholder
* `Fill.resume_append`: placeholders in front are filled first
* `Fill.resume_cons`: one placeholder, and what is left behind it
* `Fill.exists_run_of_append`: what is left behind placeholders that were filled
* `run_renderWithin_of_append`: a render behind some of its placeholders
-/

namespace Stencil

open Markup (Placeholder scan)

namespace Fill

/-! ## Parts of blocks -/

/-- A part of a block, rendered one level deeper. -/
def inside (nested : Nested) (locals : Scope) (body : Text) : Render (Option Text) :=
  nested locals body >>= fun inner => pure (some inner.output)

theorem inside_bind {α : Type} (nested : Nested) (locals : Scope) (body : Text)
    (next : Option Text → Render α) :
    inside nested locals body >>= next =
      nested locals body >>= fun inner => next (some inner.output) := by
  simp [inside]

/-- The last part of a block, or the empty text if there is none. -/
def otherwise (nested : Nested) (locals : Scope) : Option Text → Render (Option Text)
  | some body => inside nested locals body
  | none => pure (some [])

/-! ## Placeholders in their order -/

variable (setup : Setup) (nested : Nested) (locals : Scope)

/-- The replacement of a placeholder by its text, or by the fallback, if there is any. -/
def replacement (p : Placeholder) (text? : Option Text) : Replacements :=
  ((text?.or setup.settings.fallback.replacement?).map fun text => (p.raw, text)).toList

theorem placeholders_cons (p : Placeholder) (rest : List Placeholder) :
    placeholders setup nested locals (p :: rest) = do
      let text? ← placeholder setup nested locals p
      let later ← placeholders setup nested locals rest
      return replacement setup p text? ++ later := by
  rw [placeholders]
  refine bind_congr fun text? => bind_congr fun later => ?_
  unfold replacement
  cases text?.or setup.settings.fallback.replacement? <;> rfl

/-- **One list of placeholders after the other.** -/
theorem placeholders_append (front back : List Placeholder) :
    placeholders setup nested locals (front ++ back) = do
      let earlier ← placeholders setup nested locals front
      let later ← placeholders setup nested locals back
      return earlier ++ later := by
  induction front with
  | nil => simp [placeholders]
  | cons p front ih =>
    simp only [List.cons_append, placeholders_cons, ih, bind_assoc, pure_bind, List.append_assoc]

/-- The render of a text, taken up once the replacements `earlier` are collected and the
placeholders `later` are left to fill. -/
def resume (text : Text) (earlier : Replacements) (later : List Placeholder) : Render Rendered := do
  let replacements ← placeholders setup nested locals later
  return ⟨(earlier ++ replacements).substitute text, earlier ++ replacements, scan text⟩

/-- **Placeholders in front** are filled first. -/
theorem resume_append (text : Text) (earlier : Replacements) (front back : List Placeholder) :
    resume setup nested locals text earlier (front ++ back) =
      placeholders setup nested locals front >>= fun more =>
        resume setup nested locals text (earlier ++ more) back := by
  simp [resume, placeholders_append]

/-- **One placeholder**, and what is left behind it. -/
theorem resume_cons (text : Text) (earlier : Replacements) (p : Placeholder)
    (rest : List Placeholder) :
    resume setup nested locals text earlier (p :: rest) =
      placeholder setup nested locals p >>= fun text? =>
        resume setup nested locals text (earlier ++ replacement setup p text?) rest := by
  simp [resume, placeholders_cons]

section Run

variable {setup nested locals} {p : Placeholder} {text? : Option Text}
  {start middle stop : Progress} {earlier all : Replacements}

/-- What is left of placeholders that do not fail, behind the first ones. -/
theorem exists_run_of_append {front back : List Placeholder}
    (ran : (placeholders setup nested locals front).run start = (.ok earlier, middle))
    (whole : (placeholders setup nested locals (front ++ back)).run start = (.ok all, stop)) :
    ∃ later, (placeholders setup nested locals back).run middle = (.ok later, stop) := by
  rw [placeholders_append, Render.run_bind, ran] at whole
  simp only [Render.run_bind] at whole
  split at whole
  · next later last behind =>
    cases whole
    exact ⟨later, behind⟩
  · cases whole

/-- What is left of placeholders that do not fail, behind the first one. -/
theorem exists_run_of_cons {rest : List Placeholder}
    (filled : (placeholder setup nested locals p).run start = (.ok text?, middle))
    (whole : (placeholders setup nested locals (p :: rest)).run start = (.ok all, stop)) :
    ∃ later, (placeholders setup nested locals rest).run middle = (.ok later, stop) := by
  rw [placeholders_cons, Render.run_bind, filled] at whole
  simp only [Render.run_bind] at whole
  split at whole
  · next later last behind =>
    cases whole
    exact ⟨later, behind⟩
  · cases whole

/-- A placeholder that is filled leaves its replacement and its progress to the others. -/
theorem run_resume_cons_of_ok
    (filled : (placeholder setup nested locals p).run start = (.ok text?, middle)) (text : Text)
    (earlier : Replacements) (rest : List Placeholder) :
    (resume setup nested locals text earlier (p :: rest)).run start =
      (resume setup nested locals text (earlier ++ replacement setup p text?) rest).run middle := by
  rw [resume_cons, Render.run_bind, filled]

theorem run_resume_nil (text : Text) (earlier : Replacements) (start : Progress) :
    (resume setup nested locals text earlier []).run start =
      (.ok ⟨earlier.substitute text, earlier, scan text⟩, start) := by
  simp [resume, placeholders]

end Run

end Fill

/-- **A render** is taken up in front of its first placeholder. -/
theorem renderWithin_succ (setup : Setup) (levels : Nat) (locals : Scope) (text : Text) :
    renderWithin setup (levels + 1) locals text =
      Render.note (.scanned text) >>= fun _ =>
        Fill.resume setup (renderWithin setup levels) locals text [] (scan text) := by
  simp [renderWithin, Fill.resume]

theorem run_renderWithin_succ (setup : Setup) (levels : Nat) (locals : Scope) (text : Text)
    (start : Progress) :
    (renderWithin setup (levels + 1) locals text).run start =
      (Fill.resume setup (renderWithin setup levels) locals text [] (scan text)).run
        { start with trail := .scanned text :: start.trail } := by
  rw [renderWithin_succ, Render.run_bind, Render.run_note]

/-- **A render behind some of its placeholders**: they are filled first, or the render fails as
they do. -/
theorem run_renderWithin_of_append {text : Text} {front back : List Placeholder}
    (scanned : scan text = front ++ back) (setup : Setup) (levels : Nat) (locals : Scope)
    (start : Progress) :
    (renderWithin setup (levels + 1) locals text).run start =
      match (Fill.placeholders setup (renderWithin setup levels) locals front).run
          { start with trail := .scanned text :: start.trail } with
      | (.ok earlier, begun) =>
        (Fill.resume setup (renderWithin setup levels) locals text earlier back).run begun
      | (.error failure, middle) => (.error failure, middle) := by
  rw [run_renderWithin_succ, scanned, Fill.resume_append, Render.run_bind]
  simp only [List.nil_append]
  rcases (Fill.placeholders setup (renderWithin setup levels) locals front).run _ with
    ⟨failure | earlier, begun⟩ <;> rfl

end Stencil
