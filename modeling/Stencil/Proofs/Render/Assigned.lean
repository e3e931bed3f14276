import Stencil.Proofs.Expr.Name
import Stencil.Proofs.Render.Conditional
import Stencil.Proofs.Render.Steady
import Stencil.Proofs.Render.Variable

/-!
# Where an assigned value is seen

The value of an assignment is seen by all that is filled behind it and before the name is set again:
by the names in the same text, and by those in the texts that are rendered inside blocks and imports
behind it. A placeholder is filled where its text first occurs, once for all its occurrences, so a
name that stands in front of the assignment as well keeps the value that it has there.

## Main definitions

* `Markup.Placeholder.IsName`: the placeholder of a name
* `Rendered.Shows`: what a placeholder is replaced by at all its occurrences
* `Fill.EntersUnset`: a text that is rendered before a name is set

## Main results

* `Rendered.shows_name`: a name is replaced by the value that it has where it first occurs
* `Fill.EntersUnset.get?_eq`: a variable stays until it is set
* `Fill.assigned_value_is_shown`: where the value of an assignment is seen
-/

namespace Stencil

open Markup (NoTripleBrace Placeholder Visits closing opening scan)

/-! ## Names and what they are replaced by -/

/-- The placeholder is a name. -/
structure Markup.Placeholder.IsName (p : Placeholder) (name : Text) : Prop where
  kind : p.kind = .simple
  directive : p.directive = name

/-- In the output of a text the span `raw` is replaced by `shown`, at all of its occurrences that
the pass over the text reaches. These are all occurrences, if no three opening braces stand in a row
and nothing to be replaced starts inside a span that stays. -/
structure Rendered.Shows (rendered : Rendered) (text raw shown : Text) : Prop where
  recorded : rendered.replacements.lookup raw = some shown
  placed : ∀ left span right, Visits text left span right → span.raw = raw →
    rendered.replacements.Reaches text left →
      ∃ front back, Piece.source front = left ∧ Piece.source back = right ∧
        rendered.output = Piece.written front ++ shown ++ Piece.written back
  reached : NoTripleBrace text → rendered.replacements.AllUndisturbed text →
    ∀ left span right, Visits text left span right → rendered.replacements.Reaches text left

namespace Rendered

variable {setup : Setup} {levels : Nat} {locals : Scope} {text shown : Text}
  {front rest : List Placeholder} {p : Placeholder} {start begun middle stop : Progress}
  {earlier : Replacements} {rendered : Rendered}

/-- A render that does not fail has filled the placeholders in front of each other. -/
theorem exists_front (scanned : scan text = front ++ rest)
    (success : (renderWithin setup (levels + 1) locals text).run start = (.ok rendered, stop)) :
    ∃ earlier middle, (Fill.placeholders setup (renderWithin setup levels) locals front).run
      { start with trail := .scanned text :: start.trail } = (.ok earlier, middle) := by
  rw [run_renderWithin_of_append scanned] at success
  rcases ran : (Fill.placeholders setup (renderWithin setup levels) locals front).run
    { start with trail := .scanned text :: start.trail } with ⟨failure | earlier, middle⟩
  · rw [ran] at success
    cases success
  · exact ⟨earlier, middle, rfl⟩

section Filled

variable {text? : Option Text} (scanned : scan text = front ++ p :: rest)
  (ran : (Fill.placeholders setup (renderWithin setup levels) locals front).run
    { start with trail := .scanned text :: start.trail } = (.ok earlier, begun))
  (filled : (Fill.placeholder setup (renderWithin setup levels) locals p).run begun =
    (.ok text?, middle))
  (success : (renderWithin setup (levels + 1) locals text).run start = (.ok rendered, stop))
include scanned ran filled success

/-- **A placeholder is filled once**, where its text first occurs. -/
theorem lookup_of_filled :
    rendered.replacements.lookup p.raw = text?.or setup.settings.fallback.replacement? := by
  have nodup := Markup.nodup_raw_scan text
  rw [scanned, List.map_append, List.map_cons] at nodup
  have fresh : earlier.lookup p.raw = none := by
    have covers := Fill.placeholders_returns setup _ locals front _ _ _ ran
    refine covers.lookup_eq_none fun q hq => ?_
    exact (List.nodup_append.mp nodup).2.2 q.raw (List.mem_map_of_mem hq) p.raw
      (List.mem_cons_self ..)
  rw [run_renderWithin_of_append scanned, ran] at success
  simp only at success
  rw [Fill.run_resume_cons_of_ok filled, Fill.resume, Render.run_bind] at success
  split at success
  · next later last ran' =>
    have behind : later.lookup p.raw = none := by
      have covers := Fill.placeholders_returns setup _ locals rest _ _ _ ran'
      refine covers.lookup_eq_none fun q hq same => ?_
      have once := (List.nodup_cons.mp (List.nodup_append.mp nodup).2.1).1
      exact once (same ▸ List.mem_map_of_mem hq)
    cases success
    simp only [List.lookup_append, fresh, behind, Fill.replacement, Option.none_or, Option.or_none]
    cases text?.or setup.settings.fallback.replacement? with
    | none => rfl
    | some shown => exact List.lookup_cons_self
  · cases success

/-- What a placeholder is replaced by, it is replaced by at all its occurrences. -/
theorem shows_of_filled {shown : Text}
    (given : text?.or setup.settings.fallback.replacement? = some shown) :
    rendered.Shows text p.raw shown := by
  have recorded := (lookup_of_filled scanned ran filled success).trans given
  obtain ⟨covers, rendered_eq⟩ := renderWithin_returns setup _ locals text _ _ _ success
  have output : rendered.output = rendered.replacements.substitute text :=
    congrArg Rendered.output rendered_eq
  refine ⟨recorded, ?_, ?_⟩
  · intro left span right visited same reaches
    rw [output]
    exact reaches.substitute_eq covers.ofSpans visited (same ▸ recorded)
  · intro calm quiet left span right visited
    exact Replacements.reaches_of_allUndisturbed covers.ofSpans calm quiet visited

end Filled

/-- **A name is replaced by the value that it has where it first occurs.** -/
theorem shows_name {name : Text} {value : Value} (scanned : scan text = front ++ p :: rest)
    (isName : p.IsName name) (isWord : Path.IsWord name)
    (ran : (Fill.placeholders setup (renderWithin setup levels) locals front).run
      { start with trail := .scanned text :: start.trail } = (.ok earlier, begun))
    (bound : (Env.lookup ⟨locals, begun.globals, setup.values⟩).get? name = some value)
    (scalar : value.isObject = false)
    (success : (renderWithin setup (levels + 1) locals text).run start = (.ok rendered, stop)) :
    rendered.Shows text p.raw value.display := by
  have filled : (Fill.placeholder setup (renderWithin setup levels) locals p).run begun =
      (.ok (some value.display), begun) := by
    rw [Fill.placeholder, isName.kind, isName.directive]
    exact Fill.run_simple_of_isWord begun isWord bound scalar
  exact shows_of_filled scanned ran filled success rfl

end Rendered

namespace Fill

/-! ## Before a name is set -/

/-- While `ps` are filled from `start`, `text` is rendered inside one of them, with `levels'` levels
of nesting that may be entered, the given bindings of the loops around it, and from the progress
`inner`, and `name` is not set before: no placeholder in front sets it, and where the text is inside
a loop that sets the name, the loop has not set any variable yet. -/
inductive EntersUnset (setup : Setup) (name : Text) :
    (levels : Nat) → (locals : Scope) → (ps : List Placeholder) → (start : Progress) →
      (levels' : Nat) → (locals' : Scope) → (text : Text) → (inner : Progress) → Prop
  | here {levels : Nat} {locals locals' : Scope} {p : Placeholder} {later : List Placeholder}
      {text : Text} {start inner : Progress}
      (enters : Enters setup (renderWithin setup levels) locals p start locals' text inner)
      (unset : p.kind = .loop → ¬ Sets setup name p ∨ inner.globals = start.globals) :
      EntersUnset setup name levels locals (p :: later) start levels locals' text inner
  | behind {levels levels' : Nat} {locals locals' : Scope} {p : Placeholder}
      {later : List Placeholder} {text : Text} {text? : Option Text} {start middle inner : Progress}
      (filled : (placeholder setup (renderWithin setup levels) locals p).run start =
        (.ok text?, middle))
      (unset : ¬ Sets setup name p)
      (entered : EntersUnset setup name levels locals later middle levels' locals' text inner) :
      EntersUnset setup name levels locals (p :: later) start levels' locals' text inner
  | inside {levels levels' levels'' : Nat} {locals locals' locals'' : Scope}
      {ps : List Placeholder} {text deeper : Text} {start middle inner : Progress}
      (outer : EntersUnset setup name levels locals ps start (levels' + 1) locals' text middle)
      (entered : EntersUnset setup name levels' locals' (scan text)
        { middle with trail := .scanned text :: middle.trail } levels'' locals'' deeper inner) :
      EntersUnset setup name levels locals ps start levels'' locals'' deeper inner

/-- **A variable stays** until it is set. -/
theorem EntersUnset.get?_eq {setup : Setup} {name text : Text} {levels levels' : Nat}
    {locals locals' : Scope} {ps : List Placeholder} {start inner : Progress}
    (h : EntersUnset setup name levels locals ps start levels' locals' text inner) :
    inner.globals.get? name = start.globals.get? name := by
  induction h with
  | @here levels locals locals' p later text start inner enters unset =>
    -- only a loop renders a text again after the text may have set variables
    by_cases loop : p.kind = .loop
    · rcases unset loop with unset | same
      · exact enters.get?_eq unset
      · rw [same]
    · rw [enters.globals_eq loop]
  | behind filled unset entered ih => exact ih.trans (get?_of_run_placeholder filled unset)
  | inside outer entered outer_ih entered_ih => exact entered_ih.trans outer_ih

/-- **The branch that is taken** is rendered inside a conditional block. -/
theorem Enters.of_branch {setup : Setup} {nested : Nested} {locals : Scope} {block : IfBlock}
    {before behind : List Branch} {b : Branch} {p : Placeholder} {start : Progress}
    (span : p.toSpan = block.placeholder.toSpan) (split : block.branches = before ++ b :: behind)
    (none : ∀ c ∈ before, c.holds setup locals start.globals = .ok false)
    (holds : b.holds setup locals start.globals = .ok true) :
    Enters setup nested locals p start locals b.body (start.testing (before ++ [b])) := by
  apply Enters.of_inside
  intro other
  have same : placeholder setup other locals p =
      placeholder setup other locals block.placeholder := by
    obtain ⟨_, offset⟩ := p
    cases span
    rfl
  rw [same, block.placeholder_eq, split, run_choose_append start none,
    run_choose_of_true (start.testing before) holds, ← Progress.testing_append]

/-! ## Where an assigned value is seen -/

theorem isIdentifier_of_assignmentParts? {directive name source : Text}
    (parts : assignmentParts? directive = some (name, source)) : Path.isIdentifier name = true := by
  rw [assignmentParts?] at parts
  exact (Option.filter_eq_some_iff.mp parts).2

section Assigned

variable {setup : Setup} {levels : Nat} {locals : Scope} {text name source : Text} {value : Value}
  {front later : List Placeholder} {p : Placeholder} {start begun : Progress}
  {earlier : Replacements}

variable (kind : p.kind = .assignment)
  (parts : assignmentParts? p.directive = some (name, source))
  (succeeds : Assignment.value
    (Env.lookup ⟨locals, declared setup locals name begun.globals, setup.values⟩) source =
      .ok value)
include kind parts succeeds

/-- An assignment that succeeds sets the variable and leaves no text. -/
theorem run_placeholder_of_assigned (nested : Nested) :
    (placeholder setup nested locals p).run begun =
      (.ok (some []),
        { begun with
          globals := (declared setup locals name begun.globals).insert name value }) := by
  have ran : (assignment setup locals p.directive).run begun = _ := run_assignment begun parts
  rw [placeholder, kind]
  exact ran.trans (by rw [succeeds])

/-- Behind an assignment, placeholders that do not set the name find the value that it has got. -/
theorem get?_of_run_behind {between : List Placeholder} {middle : Progress} {all : Replacements}
    (ran : (placeholders setup (renderWithin setup levels) locals front).run start =
      (.ok earlier, begun))
    (whole : (placeholders setup (renderWithin setup levels) locals (front ++ p :: between)).run
      start = (.ok all, middle))
    (unset : ∀ q ∈ between, ¬ Sets setup name q) : middle.globals.get? name = some value := by
  have filled := run_placeholder_of_assigned kind parts succeeds (renderWithin setup levels)
  obtain ⟨_, behind⟩ := exists_run_of_append ran whole
  obtain ⟨_, behind⟩ := exists_run_of_cons filled behind
  rw [get?_of_run_placeholders behind unset, Bindings.get?_insert, if_pos rfl]

omit kind parts succeeds in
/-- **A variable that no loop around hides** is what its name is bound to. -/
theorem lookup_of_get? {globals : Scope} (own : globals.get? name = some value)
    (visible : locals.get? name = none) :
    (Env.lookup ⟨locals, globals, setup.values⟩).get? name = some value := by
  rw [Env.get?_lookup, visible, own]
  rfl

/-- **The value of an assignment is seen until the name is set again.** Let a text be rendered that
has an assignment among its placeholders, let those in front of it be filled, and let its expression
have a value that is not an object. The placeholder of the name shows this value at all its
occurrences

* in the same text, if it first occurs behind the assignment,
* in any text that is rendered inside a placeholder behind it, at any depth,

as long as no loop around binds the name and no placeholder between sets it, at any depth. A
placeholder of the name that occurs in front of the assignment as well is filled there, and shows
what the name is bound to there at all its occurrences. -/
theorem assigned_value_is_shown (scalar : value.isObject = false)
    (scanned : scan text = front ++ p :: later)
    (ran : (placeholders setup (renderWithin setup levels) locals front).run
      { start with trail := .scanned text :: start.trail } = (.ok earlier, begun)) :
    let behind : Progress :=
      { begun with globals := (declared setup locals name begun.globals).insert name value }
    (placeholder setup (renderWithin setup levels) locals p).run begun = (.ok (some []), behind) ∧
    (∀ between q rest rendered stop, later = between ++ q :: rest → q.IsName name →
      (∀ r ∈ between, ¬ Sets setup name r) → locals.get? name = none →
      (renderWithin setup (levels + 1) locals text).run start = (.ok rendered, stop) →
        rendered.Shows text q.raw value.display) ∧
    (∀ levels' locals' text' inner, EntersUnset setup name levels locals later behind
        (levels' + 1) locals' text' inner →
      ∀ between q rest rendered stop, scan text' = between ++ q :: rest → q.IsName name →
        (∀ r ∈ between, ¬ Sets setup name r) → locals'.get? name = none →
        (renderWithin setup (levels' + 1) locals' text').run inner = (.ok rendered, stop) →
          rendered.Shows text' q.raw value.display) ∧
    (∀ before q between earliest seen text? next rendered stop, front = before ++ q :: between →
      (placeholders setup (renderWithin setup levels) locals before).run
        { start with trail := .scanned text :: start.trail } = (.ok earliest, seen) →
      (placeholder setup (renderWithin setup levels) locals q).run seen = (.ok text?, next) →
      (renderWithin setup (levels + 1) locals text).run start = (.ok rendered, stop) →
        rendered.replacements.lookup q.raw = text?.or setup.settings.fallback.replacement? ∧
          ∀ shown, text?.or setup.settings.fallback.replacement? = some shown →
            rendered.Shows text q.raw shown) := by
  intro behind
  have isWord := Path.isWord_of_isIdentifier (isIdentifier_of_assignmentParts? parts)
  refine ⟨run_placeholder_of_assigned kind parts succeeds _, ?_, ?_, ?_⟩
  · rintro between q rest rendered stop rfl isName unset visible success
    have split : scan text = (front ++ p :: between) ++ q :: rest := by simp [scanned]
    obtain ⟨all, middle, whole⟩ := Rendered.exists_front split success
    have own := get?_of_run_behind kind parts succeeds ran whole unset
    exact Rendered.shows_name split isName isWord whole (lookup_of_get? own visible) scalar success
  · intro levels' locals' text' inner entered between q rest rendered stop split isName unset
      visible success
    obtain ⟨all, middle, filled⟩ := Rendered.exists_front split success
    have own : middle.globals.get? name = some value := by
      rw [get?_of_run_placeholders filled unset, entered.get?_eq, Bindings.get?_insert, if_pos rfl]
    exact Rendered.shows_name split isName isWord filled (lookup_of_get? own visible) scalar success
  · rintro before q between earliest seen text? next rendered stop rfl ran' filled success
    have split : scan text = before ++ q :: (between ++ p :: later) := by simp [scanned]
    exact ⟨Rendered.lookup_of_filled split ran' filled success,
      fun shown => Rendered.shows_of_filled split ran' filled success⟩

end Assigned

/-- The value is seen behind the assignment and inside a block behind it. -/
theorem assigned_value_is_shown_of_block :
    let tag (inner : String) : Text := Markup.opening ++ inner.toList ++ Markup.closing
    let setup := ({ loader := Loader.ofTemplates [] } : Session).setup 0
      [("a".toList, .bool true), ("y".toList, .number (Number.ofNat 1))]
    let block := tag " if a " ++ tag " x " ++ tag " endif "
    let text := tag " set x = y " ++ tag " x " ++ block
    let start : Progress := {}
    ∃ inner rendered rendered' stop stop',
      (renderWithin setup 2 [] text).run start = (.ok rendered, stop) ∧
      rendered.Shows text (tag " x ") "1".toList ∧
      (renderWithin setup 1 [] (tag " x ")).run inner = (.ok rendered', stop') ∧
      rendered'.Shows (tag " x ") (tag " x ") "1".toList := by
  intro tag setup block text start
  let ifBlock : IfBlock :=
    { branches := [⟨"a".toList, tag " x "⟩]
      otherwise := none
      nonempty := List.cons_ne_nil _ _
      isCondition := by decide +kernel
      quiet := by decide +kernel
      isBody := by decide +kernel
      isBody_otherwise := by decide }
  let p : Placeholder := ⟨⟨tag " set x = y ", "set x = y".toList, .assignment⟩, 0⟩
  let q : Placeholder := ⟨⟨tag " x ", "x".toList, .simple⟩, 15⟩
  let r : Placeholder := ⟨ifBlock.placeholder.toSpan, 22⟩
  let value : Value := .number (Number.ofNat 1)
  let begun : Progress := { start with trail := .scanned text :: start.trail }
  let behind : Progress := { begun with globals := [("x".toList, value)] }
  have scanned : scan text = [] ++ p :: [q, r] := by decide +kernel
  have scanned_body : scan (tag " x ") = [] ++ { q with offset := 0 } :: [] := by decide +kernel
  have parts : assignmentParts? p.directive = some ("x".toList, "y".toList) := by decide +kernel
  have succeeds : Assignment.value
      (Env.lookup ⟨[], declared setup [] "x".toList begun.globals, setup.values⟩) "y".toList =
        .ok value := by
    have origin : Path.isIdentifier "y".toList = true := by decide +kernel
    have ascii : Text.IsAscii "y".toList := by decide
    have found : (Env.lookup
        ⟨[], declared setup [] "x".toList begun.globals, setup.values⟩).get? "y".toList =
          some value := rfl
    exact Assignment.value_of_isAscii origin _ ascii rfl found
  have scalar : value.isObject = false := rfl
  have ran : (placeholders setup (renderWithin setup 1) [] []).run begun = (.ok [], begun) := rfl
  obtain ⟨set, here, inside, -⟩ :=
    assigned_value_is_shown (p := p) rfl parts succeeds scalar scanned ran
  have fine : ((renderWithin setup 2 [] text).run start).1.isOk = true := by decide +kernel
  obtain ⟨rendered, stop, success⟩ := Render.exists_of_isOk fine
  have shows := here [] q [r] rendered stop rfl ⟨rfl, rfl⟩ (List.forall_mem_nil _) rfl success
  have filled : (placeholder setup (renderWithin setup 1) [] q).run behind =
      (.ok (some value.display), behind) :=
    run_simple_of_isWord behind (Path.isWord_of_isIdentifier (by decide +kernel)) rfl scalar
  let inner := behind.testing [⟨"a".toList, tag " x "⟩]
  have entered : EntersUnset setup "x".toList 1 [] [q, r] behind 1 [] (tag " x ") inner := by
    refine .behind filled (not_sets_of_simple rfl) (.here ?_ fun loop => by cases loop)
    have holds : Branch.holds setup [] behind.globals ⟨"a".toList, tag " x "⟩ = .ok true := by
      decide +kernel
    have span : r.toSpan = ifBlock.placeholder.toSpan := rfl
    have split : ifBlock.branches = [] ++ ⟨"a".toList, tag " x "⟩ :: [] := rfl
    exact Enters.of_branch span split (List.forall_mem_nil _) holds
  have fine' : ((renderWithin setup 1 [] (tag " x ")).run inner).1.isOk = true := by decide +kernel
  obtain ⟨rendered', stop', success'⟩ := Render.exists_of_isOk fine'
  have shows' := inside 0 [] _ inner entered [] _ [] rendered' stop' scanned_body ⟨rfl, rfl⟩
    (List.forall_mem_nil _) rfl success'
  have written : value.display = "1".toList := by decide +kernel
  rw [written] at shows shows'
  exact ⟨inner, rendered, rendered', stop, stop', success, shows, success', shows'⟩

end Fill

/-- **A name in front of an assignment is kept**: the second of two occurrences stands behind the
assignment, and shows the same as the first. -/
theorem Session.render_keeps_name_in_front :
    let tag (inner : String) : Text := Markup.opening ++ inner.toList ++ Markup.closing
    let session : Session := { loader := Loader.ofTemplates [] }
    let values : Values := [("x".toList, .text "0".toList)]
    let outcome := session.render 0 (tag " x " ++ tag " set x = 1 " ++ tag " x ") values
    outcome.1 = .ok "00".toList ∧
      (outcome.2.globals.get? "x".toList).map Value.display = some "1".toList := by
  decide +kernel

end Stencil
