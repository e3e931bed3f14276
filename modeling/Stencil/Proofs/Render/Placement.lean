import Stencil.Proofs.Render.Outcome

/-!
# Where replacements land

The output of a render is read off the layout of its template. If all placeholders have
replacements, each visited span is exchanged for its own and nothing else changes. Without a
fallback some spans may stay, and a span that stays is not safe from replacements of spans
that are written inside it.

## Main definitions

* `Session.recorded`: the replacement that the last render kept for a text

## Main results

* `Session.render_eq_filled`: the output is the filled layout
* `Session.render_leavesInPlace_iff`: which spans without a replacement stay in place
-/

namespace Stencil

open Markup (Span Visits NoTripleBrace scan layout opening closing)

namespace Session

variable {session after : Session} {clock : Int} {text output : Text} {values : Values}

/-- The replacement for a text that the last render that did not fail has kept. -/
def recorded (session : Session) (raw : Text) : Option Text :=
  session.snapshot.bind fun snapshot => snapshot.replacements.lookup raw

/-! ## All spans are replaced -/

/-- **Substitution is positional.** If every placeholder has a replacement, by its value or by
the fallback, then every visited span is exchanged for the replacement kept for its text, the
text around the spans stays, and replacements are not read again. -/
theorem render_eq_filled (calm : NoTripleBrace text)
    (success : session.render clock text values = (.ok output, after))
    (complete : session.settings.fallback ≠ .keep ∨
      ∀ p ∈ scan text, (after.recorded p.raw).isSome) :
    (∀ span ∈ (layout text).spans.map Prod.snd, (after.recorded span.raw).isSome) ∧
      output = (layout text).filled fun raw => (after.recorded raw).getD raw := by
  obtain ⟨replacements, snapshot, rfl, covers⟩ := render_outcome success
  have recorded_eq (raw : Text) : after.recorded raw = replacements.lookup raw := by
    rw [recorded, snapshot]
    rfl
  simp only [recorded_eq] at complete ⊢
  have all : ∀ p ∈ scan text, (replacements.lookup p.raw).isSome := by
    rcases complete with given | all
    · exact covers.lookup_isSome given
    · exact all
  have visited : ∀ span ∈ (layout text).spans.map Prod.snd,
      (replacements.lookup span.raw).isSome := by
    intro span mem
    obtain ⟨p, hp, same⟩ := Markup.exists_mem_scan mem
    rw [← same]
    exact all p hp
  refine ⟨visited, ?_⟩
  refine Replacements.substitute_eq_filled covers.ofSpans calm ?_
  intro left span right h absent
  have := visited span h.mem
  simp [absent] at this

/-- One placeholder twice, with a value that contains the placeholder itself. -/
theorem render_eq_filled_of_twice :
    let session : Session := { loader := Loader.ofTemplates [] }
    let a : Text := opening ++ " a ".toList ++ closing
    let value : Text := "$1".toList ++ a
    let values : Values := [("a".toList, .text value)]
    let after := (session.render 0 (a ++ "-".toList ++ a) values).2
    session.render 0 (a ++ "-".toList ++ a) values =
        (.ok (value ++ "-".toList ++ value), after) ∧
      (∀ span ∈ (layout (a ++ "-".toList ++ a)).spans.map Prod.snd,
        (after.recorded span.raw).isSome) ∧
      value ++ "-".toList ++ value =
        (layout (a ++ "-".toList ++ a)).filled fun raw => (after.recorded raw).getD raw := by
  intro session a value values after
  have success : session.render 0 (a ++ "-".toList ++ a) values =
      (.ok (value ++ "-".toList ++ value), after) := Prod.ext (by decide +kernel) rfl
  exact ⟨success, render_eq_filled (by decide) success (.inr (by decide +kernel))⟩

/-! ## Some spans stay -/

/-- **Which spans stay in place.** A visited span without a replacement keeps all its
characters exactly if no replaced text in front of it reaches into it and nothing that is
replaced elsewhere starts inside it. In a template without three opening braces in a row all
such spans stay exactly if nothing starts inside any of them. -/
theorem render_leavesInPlace_iff
    (success : session.render clock text values = (.ok output, after)) :
    ∃ replacements, after.snapshot = some ⟨replacements, scan text, values, text⟩ ∧
      (∀ left span right, Visits text left span right → replacements.lookup span.raw = none →
        (replacements.LeavesInPlace text left span.raw right ↔
          replacements.Reaches text left ∧ replacements.Undisturbed span.raw right) ∧
        (replacements.LeavesInPlace text left span.raw right →
          ∃ front back, Piece.source front = left ∧ Piece.source back = right ∧
            output = Piece.written front ++ span.raw ++ Piece.written back)) ∧
      (NoTripleBrace text →
        (replacements.AllInPlace text ↔ replacements.AllUndisturbed text)) := by
  obtain ⟨replacements, snapshot, rfl, covers⟩ := render_outcome success
  refine ⟨replacements, snapshot, ?_, ?_⟩
  · intro left span right visited unresolved
    exact ⟨Replacements.leavesInPlace_iff covers.ofSpans visited unresolved,
      Replacements.LeavesInPlace.substitute_eq⟩
  · exact Replacements.allInPlace_iff covers.ofSpans

/-- A block without a replacement, next to a placeholder that has one. -/
theorem render_leavesInPlace_iff_of_block :
    let session : Session := { loader := Loader.ofTemplates [] }
    let a : Text := opening ++ " a ".toList ++ closing
    let block : Text := opening ++ " for x ".toList ++ closing ++ opening ++
      " endfor ".toList ++ closing
    let values : Values := [("a".toList, .text "X".toList)]
    let after := (session.render 0 (a ++ block) values).2
    session.render 0 (a ++ block) values = (.ok ("X".toList ++ block), after) ∧
      ∃ replacements,
        after.snapshot = some ⟨replacements, scan (a ++ block), values, a ++ block⟩ ∧
        (replacements.LeavesInPlace (a ++ block) a block [] ↔
          replacements.Reaches (a ++ block) a ∧ replacements.Undisturbed block []) ∧
        (replacements.AllInPlace (a ++ block) ↔
          replacements.AllUndisturbed (a ++ block)) := by
  intro session a block values after
  have success : session.render 0 (a ++ block) values = (.ok ("X".toList ++ block), after) :=
    Prod.ext (by decide +kernel) rfl
  have visited : Visits (a ++ block) a ⟨block, "for x", .loop⟩ [] :=
    ⟨[([], ⟨a, "a", .simple⟩)], [], [], [], by decide +kernel, rfl, rfl⟩
  have unresolved : after.recorded block = none := by decide +kernel
  obtain ⟨replacements, snapshot, one, all⟩ := render_leavesInPlace_iff success
  rw [recorded, snapshot] at unresolved
  exact ⟨success, replacements, snapshot, (one _ _ _ visited unresolved).1, all (by decide)⟩

/-- **A block without a replacement need not stay**: a placeholder that is replaced elsewhere
is replaced inside it too. -/
theorem render_disturbs_block :
    let session : Session := { loader := Loader.ofTemplates [] }
    let a : Text := opening ++ " a ".toList ++ closing
    let start : Text := opening ++ " for x ".toList ++ closing
    let stop : Text := opening ++ " endfor ".toList ++ closing
    let block : Text := start ++ a ++ stop
    let values : Values := [("a".toList, .text "X".toList)]
    let after := (session.render 0 (a ++ block) values).2
    session.settings.fallback = .keep ∧
      session.render 0 (a ++ block) values =
        (.ok ("X".toList ++ start ++ "X".toList ++ stop), after) ∧
      Visits (a ++ block) a ⟨block, "for x", .loop⟩ [] ∧
      after.recorded block = none ∧
      ¬ block <:+: "X".toList ++ start ++ "X".toList ++ stop := by
  intro session a start stop block values after
  refine ⟨rfl, Prod.ext (by decide +kernel) rfl, ?_, by decide +kernel, by decide⟩
  exact ⟨[([], ⟨a, "a", .simple⟩)], [], [], [], by decide +kernel, rfl, rfl⟩

end Session

end Stencil
