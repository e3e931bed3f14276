import Stencil.Proofs.Expr.Sum
import Stencil.Proofs.Render.Assigned
import Stencil.Proofs.Render.Copy
import Stencil.Proofs.Render.Failed
import Stencil.Proofs.Render.Loop

/-!
# Sums over a loop

A loop that adds the value of an expression to a variable leaves the sum of all values in the
variable. The first round declares the variable, and null stands for zero in a sum. Every further
round finds what the one before has set: variables outlive the rounds, and no name of the loop
hides this one. The expression sees the variable grow, but has the same value as without it, since
nothing was bound to the name before.

## Main definitions

* `Accumulation.text source`: the template with the loop and the variable behind it
* `Accumulation.IsSummand source`: what the expression must leave alone
* `Accumulation.partialSum`, `Accumulation.kept`: the sum in front of a round, and how it is kept

## Main results

* `Accumulation.run_round`: one round adds its number
* `Accumulation.run_rounds`, `Accumulation.run_loop`: the rounds from one of them on, and the loop
* `Session.render_accumulates`: the output, the variable and the issues
-/

namespace Stencil

open Markup (Placeholder Quiet Span clause closing opening scan)

namespace Accumulation

/-! ## The template -/

/-- The assignment that adds the value of an expression to the variable. -/
def body (source : Text) : Text := Markup.assignmentTag "total" (Expr.sum "total" source)

/-- A loop around the assignment, and the variable behind the loop. -/
def text (source : Text) : Text :=
  opening ++ " for item in items ".toList ++ closing ++
    (opening ++ " set total = total + (".toList ++ source ++ ") ".toList ++ closing) ++
    (opening ++ " endfor ".toList ++ closing) ++
    (opening ++ " total ".toList ++ closing)

/-- The expression holds no braces and no closing keyword of the loop, and in the sum it keeps the
limits for tokens and for nesting. -/
structure IsSummand (source : Text) : Prop where
  noOpening : '{' ∉ source
  noClosing : '}' ∉ source
  quiet : Quiet "endfor" source
  short : Expr.parse (Expr.sum "total" (Markup.normalize source)) ≠ .error (.tooLong Expr.maxTokens)
  shallow :
    Expr.parse (Expr.sum "total" (Markup.normalize source)) ≠ .error (.tooDeep Parser.maxNesting)

theorem isWord_total : Path.IsWord "total" := Path.isWord_of_isIdentifier (by decide +kernel)

/-- A sum is spaced by spacing its expression. -/
theorem spaced_sum (source : Text) :
    Markup.spaced (Expr.sum "total" source) = Expr.sum "total" (Markup.spaced source) := by
  have parts : Expr.sum "total" source =
      "total".toList ++ ' ' :: ("+".toList ++ ' ' :: ([] ++ '(' :: (source ++ ')' :: []))) := by
    simp [Expr.sum]
  have sign : Markup.spaced "+".toList = "+".toList :=
    Markup.spaced_of_forall (by decide) (List.forall_mem_singleton.mpr rfl)
  have empty : Markup.spaced [] = [] := rfl
  rw [parts, Markup.spaced_append_cons, Markup.spaced_append_cons,
    Markup.spaced_append_cons_of_notMem (by decide) (by decide) rfl,
    Markup.spaced_append_cons_of_notMem (by decide) (by decide) rfl,
    Markup.spaced_word isWord_total, sign, empty]
  simp [Expr.sum]

/-- Spacing leaves no blanks but plain ones. -/
theorem eq_space_of_mem_spaced (source : Text) {c : Char} (mem : c ∈ Markup.spaced source)
    (blank : Text.isBlank c = true) : c = ' ' := by
  obtain ⟨d, -, rfl⟩ := List.mem_map.mp mem
  by_cases isBlank : Text.isBlank d = true
  · rw [if_pos isBlank]
  · rw [if_neg isBlank] at blank
    exact absurd blank isBlank

/-- The expression as it is spaced is its normal form with plain blanks around it. -/
theorem exists_spaced (source : Text) :
    ∃ front back, (∀ c ∈ front, c = ' ') ∧ (∀ c ∈ back, c = ' ') ∧
      Markup.spaced source = front ++ Markup.normalize source ++ back := by
  obtain ⟨front, back, hfront, hback, same⟩ := Text.exists_eq_trim (Markup.spaced source)
  refine ⟨front, back, fun c mem => ?_, fun c mem => ?_, same⟩
  · refine eq_space_of_mem_spaced source ?_ (hfront c mem)
    rw [same]
    exact List.mem_append_left _ (List.mem_append_left _ mem)
  · refine eq_space_of_mem_spaced source ?_ (hback c mem)
    rw [same]
    exact List.mem_append_right _ mem

section Block

variable {source : Text} (h : IsSummand source)
include h

theorem IsSummand.isSource : Markup.IsSource (Expr.sum "total" source) where
  noOpening := by simpa [Expr.sum] using h.noOpening
  noClosing := by simpa [Expr.sum] using h.noClosing
  filled := by
    rw [spaced_sum]
    exact List.append_ne_nil_of_right_ne_nil _ (List.cons_ne_nil _ _)
  ends := by
    rw [spaced_sum]
    exact Assignment.isTrimmed_sum isWord_total _

/-- What the assignment is read as. -/
theorem IsSummand.delimits : Span.Delimits
    ⟨body source, "set".toList ++ ' ' ::
      Markup.assignmentBody "total" (Expr.sum "total" (Markup.spaced source)), .assignment⟩
    (clause "set" (Markup.assignmentBody "total" (Expr.sum "total" source))) [] := by
  have delimits := Markup.delimits_assignmentTag isWord_total h.isSource
  rwa [spaced_sum] at delimits

omit h in
theorem isClosing_endfor : Markup.IsClosing "endfor" := by
  have closes : Markup.Kind.closingKeyword? .loop = some "endfor".toList := rfl
  exact Markup.Kind.isClosing closes

omit h in
/-- The closing keyword of the loop stands in the assignment only if it stands in the expression. -/
theorem quiet_body_iff : Quiet "endfor" (body source) ↔ Quiet "endfor" source := by
  have parts : body source =
      [] ++ opening ++ (" set total = total + ".toList ++ '(' :: (source ++ ')' :: [' '])) ++
        closing ++ [] := by
    simp [body, Markup.assignmentTag, Markup.assignmentBody, clause, Expr.sum]
  have before : Quiet "endfor" " set total = total + " := by decide
  have behind : Quiet "endfor" [' '] := by decide
  have ne := isClosing_endfor.nonempty
  rw [parts, isClosing_endfor.quiet_append_closing_iff, isClosing_endfor.quiet_append_opening_iff,
    Markup.quiet_append_cons_iff ne (by decide) rfl,
    Markup.quiet_append_cons_iff ne (by decide) rfl]
  simp only [isClosing_endfor.quiet_nil, before, behind, true_and, and_true]

/-- The assignment leaves the tags of the loop alone. -/
theorem IsSummand.isPart : ForBlock.IsPart (body source) where
  quiet := quiet_body_iff.mpr h.quiet
  noTags := by
    let content := Markup.assignmentBody "total" (Expr.sum "total" source)
    have filled : Markup.normalize content ≠ [] := by
      rw [Markup.normalize_assignmentBody isWord_total h.isSource]
      exact List.append_ne_nil_of_left_ne_nil isWord_total.nonempty _
    have first := h.delimits.nextTag?_append []
    rw [List.append_nil] at first
    have hne : "set".toList ≠ [] := by decide
    have letters : ∀ c ∈ "set".toList, c.isAlpha = true := List.all_eq_true.mp rfl
    rw [Markup.tags, Markup.tagsFrom_of_some first, List.append_nil, Markup.tagsFrom_nil,
      Markup.Tag.ofInner_clause hne letters filled]
    refine List.forall_mem_singleton.mpr ?_
    show (["for", "elsefor", "endfor"].any fun keyword =>
      keyword.toList == Text.lower "set".toList) = false
    decide
  last := by
    rw [h.delimits.getLast?]
    decide

/-- The loop around the assignment. -/
def IsSummand.block : ForBlock where
  item := "item"
  list := "items"
  body := body source
  otherwise := none
  isIdentifier_item := by decide +kernel
  item_ne := by decide
  isPath_list := by decide +kernel
  isPart_body := h.isPart
  isPart_otherwise := by simp

theorem IsSummand.text_eq : text source = h.block.text ++ Markup.nameTag "total" := by
  simp [text, ForBlock.text, ForBlock.sections, ForBlock.first, ForBlock.elseSection,
    Markup.Section.ending, Markup.Section.text, block, ForBlock.head, body, Markup.nameTag,
    Markup.assignmentTag, Markup.assignmentBody, clause, Expr.sum]

end Block

/-! ## One round -/

/-- The sum of the first numbers, from zero on. -/
def partialSum (n : Nat → Number) (count : Nat) : Number :=
  ((List.range count).map n).foldl Number.add Number.zero

/-- The variables in front of a round: none at first, and then the sum of the rounds before. -/
def kept (n : Nat → Number) : Nat → Scope
  | 0 => []
  | i + 1 => [("total", .number (partialSum n (i + 1)))]

theorem kept_of_ne_zero (n : Nat → Number) {count : Nat} (some : count ≠ 0) :
    kept n count = ([("total", .number (partialSum n count))] : Scope) := by
  cases count with
  | zero => exact absurd rfl some
  | succ count => rfl

variable {source : Text} {setup : Setup} {items : List Value} {n : Nat → Number}

theorem partialSum_succ (n : Nat → Number) (count : Nat) :
    partialSum n (count + 1) = (partialSum n count).add (n count) := by
  simp [partialSum, List.range_succ]

/-- The names in a round without the variable. -/
def roundLookup (setup : Setup) (items : List Value) (i : Nat) (value : Value) : Lookup :=
  Env.inRound [] [] setup.values "item" value i items.length

theorem get?_roundLookup (free : setup.values.get? "total" = none) (i : Nat) (value : Value) :
    (roundLookup setup items i value).get? "total" = none := by
  rw [roundLookup, Env.get?_inRound, if_neg (by decide), if_neg (by decide), Env.get?_lookup]
  exact free

variable (items) in
/-- **In every round the variable stands for the sum of the rounds before**: it is null in the
first one, and a number later. -/
theorem exists_declared (free : setup.values.get? "total" = none) (n : Nat → Number) (i : Nat)
    (value : Value) :
    let locals := Fill.loopLocals [] "item" value i items.length
    ∃ summed : Value,
      Fill.declared setup locals "total" (kept n i) = ([("total", summed)] : Scope) ∧
      summed.isText = false ∧ summed.isContainer = false ∧
      summed.asNumber? = some (partialSum n i) := by
  intro locals
  have unbound : (Env.lookup ⟨locals, [], setup.values⟩).get? "total" = none :=
    get?_roundLookup free i value
  cases i with
  | zero =>
    refine ⟨.null, ?_, rfl, rfl, rfl⟩
    change Fill.declared setup locals "total" [] = _
    rw [Fill.declared, if_pos (Option.isNone_iff_eq_none.mpr unbound)]
    rfl
  | succ i =>
    -- the variable of the round before is still there, and the names of the loop do not hide it
    let summed : Value := .number (partialSum n (i + 1))
    have adds : Lookup.Adds _ (Env.lookup ⟨locals, kept n (i + 1), setup.values⟩) "total" summed :=
      Env.adds_insert unbound rfl
    have found := (adds.get?_eq "total").trans (if_pos rfl)
    refine ⟨summed, Fill.declared_of_bound ?_, rfl, rfl, rfl⟩
    rw [found]
    exact Option.some_ne_none summed

section Round

variable (h : IsSummand source) (free : setup.values.get? "total" = none)
  (evaluates : ∀ i value, items[i]? = some value →
    Assignment.value (roundLookup setup items i value) (Markup.normalize source) =
      .ok (.number (n i)))
include h free evaluates

/-- **The assignment in a round** has the sum with the number of the round for its value. -/
theorem value_in_round {i : Nat} {value : Value} (here : items[i]? = some value) :
    let locals := Fill.loopLocals [] "item" value i items.length
    Assignment.value
      (Env.lookup ⟨locals, Fill.declared setup locals "total" (kept n i), setup.values⟩)
      (Expr.sum "total" (Markup.spaced source)) = .ok (.number (partialSum n (i + 1))) := by
  intro locals
  obtain ⟨summed, declared, noText, scalar, stands⟩ := exists_declared items free n i value
  obtain ⟨front, back, hfront, hback, spaced⟩ := exists_spaced source
  have adds : Lookup.Adds (roundLookup setup items i value)
      (Env.lookup ⟨locals, Fill.declared setup locals "total" (kept n i), setup.values⟩)
      "total" summed := by
    rw [declared]
    exact Env.adds_insert (get?_roundLookup free i value) scalar
  rw [spaced, partialSum_succ]
  exact Assignment.value_sum adds noText stands (by decide +kernel) (by decide) rfl
    (Text.isTrimmed_trim _) hfront hback h.short h.shallow (evaluates i value here)

/-- **One round** adds its number to the variable. It outputs nothing and records no issue. -/
theorem run_round {i : Nat} {value : Value} (here : items[i]? = some value) (levels : Nat)
    {start : Progress} (begun : start.globals = kept n i) :
    ∃ rendered stop,
      (renderWithin setup (levels + 1) (Fill.loopLocals [] "item" value i items.length)
        (body source)).run start = (.ok rendered, stop) ∧
      rendered.output = [] ∧ stop.globals = kept n (i + 1) ∧ stop.issues = start.issues := by
  let locals := Fill.loopLocals [] "item" value i items.length
  let p : Placeholder := ⟨⟨body source, "set".toList ++ ' ' ::
    Markup.assignmentBody "total" (Expr.sum "total" (Markup.spaced source)), .assignment⟩, 0⟩
  let begun' : Progress := { start with trail := .scanned (body source) :: start.trail }
  have parts : Fill.assignmentParts? p.directive =
      some ("total".toList, Expr.sum "total" (Markup.spaced source)) :=
    Markup.assignmentParts?_assignmentBody isWord_total (by decide +kernel)
      (Assignment.isTrimmed_sum isWord_total _)
  have succeeds : Assignment.value (Env.lookup
      ⟨locals, Fill.declared setup locals "total" begun'.globals, setup.values⟩)
      (Expr.sum "total" (Markup.spaced source)) = .ok (.number (partialSum n (i + 1))) := by
    have same : begun'.globals = kept n i := begun
    rw [same]
    exact value_in_round h free evaluates here
  have assigned := Fill.run_placeholder_of_assigned rfl parts succeeds (renderWithin setup levels)
  obtain ⟨summed, declared, -⟩ := exists_declared items free n i value
  -- the sum takes the place of what the variable stood for
  have sorted : (Fill.declared setup locals "total" begun'.globals).insert "total"
      (.number (partialSum n (i + 1))) = kept n (i + 1) := by
    have same : begun'.globals = kept n i := begun
    rw [same, declared]
    rfl
  rw [run_renderWithin_of_scan h.delimits.scan_raw rfl h.delimits.raw_ne_nil, Render.run_bind,
    assigned]
  exact ⟨_, _, rfl, rfl, sorted, rfl⟩

/-! ## All rounds -/

/-- **The rounds of the loop** from one of them on: each adds its number to what the rounds before
have left. -/
theorem run_rounds {before rest : List Value} (split : items = before ++ rest) (levels : Nat)
    {start : Progress} (begun : start.globals = kept n before.length) :
    ∃ stop,
      (Fill.rounds (renderWithin setup (levels + 1)) [] "item" (body source) items.length
        before.length rest).run start = (.ok (List.replicate rest.length []), stop) ∧
      stop.globals = kept n items.length ∧ stop.issues = start.issues := by
  -- on the rounds to come: those before are counted in the sum
  induction rest generalizing before start with
  | nil =>
    have all : before.length = items.length := by simp [split]
    rw [all] at begun
    exact ⟨start, rfl, begun, rfl⟩
  | cons value rest ih =>
    have here : items[before.length]? = some value := by simp [split]
    have split' : items = (before ++ [value]) ++ rest := by simp [split]
    have next : (before ++ [value]).length = before.length + 1 := by simp
    obtain ⟨rendered, middle, ran, output, added, quiet⟩ :=
      run_round h free evaluates here levels begun
    rw [← next] at added
    obtain ⟨stop, later, summed, quiet'⟩ := ih split' added
    rw [next] at later
    refine ⟨stop, ?_, summed, quiet'.trans quiet⟩
    rw [Fill.rounds, Render.run_bind, ran]
    simp only [Render.run_bind, later, Render.run_pure, output, List.length_cons,
      List.replicate_succ]

/-- **The loop** leaves the sum of all numbers in the variable. It is replaced by nothing, and
records no issue. -/
theorem run_loop (listed : setup.values.get? "items" = some (.list items)) (any : items ≠ [])
    (levels : Nat) (start : Progress) (begun : start.globals = []) :
    ∃ stop,
      (Fill.placeholder setup (renderWithin setup (levels + 1)) [] h.block.placeholder).run start =
        (.ok (some []), stop) ∧
      stop.globals = kept n items.length ∧ stop.issues = start.issues := by
  have found : h.block.items setup [] start.globals = items := by
    have whole : (Env.lookup ⟨[], start.globals, setup.values⟩).get? "items" =
        some (.list items) := by
      rw [Env.get?_lookup, begun]
      exact listed
    have named : Path.resolve? (Env.lookup ⟨[], start.globals, setup.values⟩) h.block.list =
        some (.list items) := by
      change Path.resolve? _ "items".toList = _
      simp only [Path.resolve?, whole]
    rw [ForBlock.items, named]
    rfl
  obtain ⟨stop, ran, summed, quiet⟩ :=
    run_rounds h free evaluates (List.nil_append items).symm levels begun
  refine ⟨stop, ?_, summed, quiet⟩
  have empty : ForBlock.textOf (List.replicate items.length []) = [] := by
    apply ForBlock.textOf_of_isBlank
    intro output mem
    obtain rfl := List.eq_of_mem_replicate mem
    exact List.forall_mem_nil _
  have ran' : (Fill.rounds (renderWithin setup (levels + 1)) [] h.block.item h.block.body
      items.length 0 items).run start = (.ok (List.replicate items.length []), stop) := ran
  rw [ForBlock.run_placeholder_of_ne_nil rfl start (by rwa [found]), found, ForBlock.rounds,
    Render.run_bind, ran']
  simp only [Render.run_pure, empty]

end Round

end Accumulation

/-! ## The render -/

/-- Whether an evaluation gives a given number. -/
instance (result : Except ExprError Value) (n : Number) : Decidable (result = .ok (.number n)) :=
  match result with
  | .ok (.number m) =>
    decidable_of_iff (m = n) ⟨fun same => by rw [same], fun same => by cases same; rfl⟩
  | .ok .null | .ok (.bool _) | .ok (.text _) | .ok (.list _) | .ok (.object _ _) | .error _ =>
    isFalse fun same => by cases same

namespace Session

open Accumulation

/-- **A sum over a loop is a left fold.** Let a list with elements be supplied and nothing under the
name of the variable, and let the expression, as it is read in a tag, have a number for its value on
every element, without the variable. If it leaves the tags alone and the sum keeps the limits, the
output is the sum of the numbers from zero on, in the order of the list; the variable is the only
one that is set, and is this sum; and no issue is recorded. -/
theorem render_accumulates (session : Session) (clock : Int) {values : Values} {items : List Value}
    {source : Text} {n : Nat → Number} (h : IsSummand source) (any : items ≠ [])
    (listed : (Scope.ofValues values).get? "items" = some (.list items))
    (free : (Scope.ofValues values).get? "total" = none)
    (deep : 1 ≤ session.settings.maxDepth)
    (evaluates : ∀ i value, items[i]? = some value →
      Assignment.value (Env.inRound [] [] (Scope.ofValues values) "item" value i items.length)
        (Markup.normalize source) = .ok (.number (n i))) :
    let sum := ((List.range items.length).map n).foldl Number.add Number.zero
    ∃ after, session.render clock (Accumulation.text source) values = (.ok sum.display, after) ∧
      after.globals = ([("total", .number sum)] : Scope) ∧ after.issues = session.issues := by
  intro sum
  let around := session.setup clock values
  let total : Text := Markup.nameTag "total"
  let begun : Progress :=
    { issues := session.issues, trail := [.scanned (h.block.text ++ total)] }
  obtain ⟨levels, depth⟩ : ∃ levels, session.settings.maxDepth = levels + 1 :=
    ⟨session.settings.maxDepth - 1, by omega⟩
  obtain ⟨_, looped⟩ := h.block.delimits_span
  have shown := Markup.delimits_nameTag isWord_total
  have free' : around.values.get? "total" = none := free
  obtain ⟨stop, ran, added, quiet⟩ := run_loop h free' evaluates listed any levels begun rfl
  rw [kept_of_ne_zero n (List.length_pos_iff.mpr any).ne'] at added
  have bound : (Env.lookup ⟨[], stop.globals, around.values⟩).get? "total" =
      some (.number sum) := by
    rw [Env.get?_lookup, added]
    rfl
  have ran' : (Fill.placeholder around (renderWithin around (levels + 1)) []
      ⟨⟨total, "total", .simple⟩, Text.byteLength h.block.text⟩).run stop =
        (.ok (some sum.display), stop) :=
    Fill.run_simple_of_isWord stop isWord_total bound rfl
  have different : h.block.text ≠ total := by
    intro same
    have spans := looped.eq_of_append_eq shown (congrArg (· ++ []) same)
    cases congrArg Markup.Span.kind spans
  obtain ⟨rendered, output, whole⟩ : ∃ rendered, rendered.output = [] ++ sum.display ∧
      (renderWithin around (levels + 2) [] (h.block.text ++ total)).run
        { issues := session.issues } = (.ok rendered, stop) :=
    exists_run_of_two_spans looped shown different ran ran'
  have started : (Stencil.render around (Accumulation.text source)).run
      { issues := session.issues } = (.ok rendered, stop) := by
    rw [h.text_eq, Stencil.render]
    change (renderWithin around (session.settings.maxDepth + 1) [] _).run _ = _
    rw [depth]
    exact whole
  rw [render, renderKeeping_eq_finish]
  change ∃ after, finish _ _ _ ((Stencil.render around (Accumulation.text source)).run
    { issues := session.issues }) = _ ∧ _
  rw [started, finish, output, List.nil_append]
  exact ⟨_, rfl, added, quiet⟩

/-- Two numbers times the number of their round add up to eight. -/
theorem render_accumulates_of_two :
    let tag (inner : String) : Text := Markup.opening ++ inner.toList ++ Markup.closing
    let session : Session := { loader := Loader.ofTemplates [] }
    let values : Values :=
      [("items".toList, .list [.number (Number.ofNat 2), .number (Number.ofNat 3)])]
    let text := tag " for item in items " ++ tag " set total = total + (item * loop.index) " ++
      tag " endfor " ++ tag " total "
    ∃ after, session.render 0 text values = (.ok "8", after) ∧
      after.globals = ([("total", .number (Number.ofNat 8))] : Scope) ∧ after.issues = [] := by
  intro tag session values text
  let source : Text := "item * loop.index"
  let n (i : Nat) : Number := if i = 0 then Number.ofNat 2 else Number.ofNat 6
  have fine : (Expr.parse (Expr.sum "total" (Markup.normalize source))).toBool = true := by
    decide +kernel
  have h : IsSummand source :=
    { noOpening := by decide
      noClosing := by decide
      quiet := by decide
      short := by
        intro same
        rw [same] at fine
        cases fine
      shallow := by
        intro same
        rw [same] at fine
        cases fine }
  have evaluates : ∀ i value,
      [Value.number (Number.ofNat 2), .number (Number.ofNat 3)][i]? = some value →
      Assignment.value (Env.inRound [] [] (Scope.ofValues values) "item" value i 2)
        (Markup.normalize source) = .ok (.number (n i)) := by
    intro i value here
    rcases i with - | - | i
    · obtain rfl := Option.some.inj here
      decide +kernel
    · obtain rfl := Option.some.inj here
      decide +kernel
    · exact absurd here (Option.some_ne_none value).symm
  have written : text = Accumulation.text source := by decide +kernel
  have eight : ((List.range 2).map n).foldl Number.add Number.zero = Number.ofNat 8 := by
    decide +kernel
  obtain ⟨after, output, added, quiet⟩ := session.render_accumulates 0 h (List.cons_ne_nil _ _) rfl
    rfl (by decide) evaluates
  have shown : (Number.ofNat 8).display = "8".toList := by decide +kernel
  refine ⟨after, ?_, ?_, quiet⟩
  · rw [written, ← shown, ← eight]
    exact output
  · rw [← eight]
    exact added

/-- Two plain summands: they have no braces, name neither the variable nor the closing keyword in
small letters, keep the limits and have the value one. In the loop the HTML space of one is read as
a blank, so that its comparison holds and the output is two; the other one ends the loop by its
capital letters, and the template is left as it is. -/
theorem accumulation_rereads_expression :
    let one : Value := .number (Number.ofNat 1)
    let session : Session := { loader := Loader.ofTemplates [] }
    let values : Values := [("items".toList, .list [one])]
    let isPlainSummand (source : Text) : Prop :=
      '{' ∉ source ∧ '}' ∉ source ∧ ¬ "endfor".toList <:+: source ∧ ¬ "total".toList <:+: source ∧
        (Expr.parse (Expr.sum "total" source)).toBool = true ∧
        Assignment.value (Env.inRound [] [] (Scope.ofValues values) "item" one 0 1) source =
          .ok one
    let output (source : Text) := (session.render 0 (Accumulation.text source) values).1
    let blank : Text := "item + ('&nbsp;' == ' ')"
    let capitals : Text := "item + ('ENDFOR' == '')"
    (Number.zero.add (Number.ofNat 1)).display = "1".toList ∧
      (isPlainSummand blank ∧ output blank = .ok "2".toList) ∧
      isPlainSummand capitals ∧ output capitals = .ok (Accumulation.text capitals) := by
  decide +kernel

end Session

end Stencil
