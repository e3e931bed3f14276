import Stencil.Proofs.Render.ForBlock
import Stencil.Proofs.Render.Sequence
import Stencil.Proofs.Render.Variable
import Stencil.Render.Session

/-!
# What a loop does

The rounds of a loop run one after the other over the values of its list. Each starts from the
progress that the one before has left, and sees its value and its place in the list. The loop is
replaced by their outputs, one line each, and the placeholders behind it see nothing of its names.
A failure of a round is the failure of the render.

## Main definitions

* `Fill.RoundEnds`: how one round of a loop ends
* `Env.inRound`, `Env.roundFields`: the names in a round, and what the loop tells about it
* `ForBlock.items`, `ForBlock.textOf`: the values that a loop runs over, and the text of its rounds

## Main results

* `Fill.run_rounds`: the rounds of a loop, from one of them on
* `Env.get?_inRound`, `Env.resolve?_inRound`: what a round sees
* `ForBlock.run_placeholder`: what a loop does is what its rounds do
* `ForBlock.folds_over_items`: a loop runs over its list
-/

namespace Stencil

open Markup (Placeholder layout scan)

/-! ## The rounds of a loop -/

namespace Fill

section Rounds

variable (nested : Nested) (locals : Scope) (item body : Text)

/-- Round `i` of a loop over `items` ends in the given way, if it is started from `start`. -/
def RoundEnds (items : List Value) (i : Nat) (start : Progress)
    (result : Except Failure Rendered × Progress) : Prop :=
  ∃ value, items[i]? = some value ∧
    (nested (loopLocals locals item value i items.length) body).run start = result

/-- **The rounds of a loop** from one of them on: all of them end, each from the progress that
the one before has left, or the first that fails ends the loop. -/
theorem run_rounds {items before rest : List Value} (split : items = before ++ rest)
    (start : Progress) :
    ∃ (count : Nat) (state : Nat → Progress) (inner : Nat → Rendered),
      before.length ≤ count ∧ state before.length = start ∧
      (∀ i, before.length ≤ i → i < count →
        RoundEnds nested locals item body items i (state i) (.ok (inner i), state (i + 1))) ∧
      ((count = items.length ∧
          (rounds nested locals item body items.length before.length rest).run start =
            (.ok ((List.range' before.length rest.length).map fun i => (inner i).output),
              state count)) ∨
        ∃ failure middle,
          RoundEnds nested locals item body items count (state count) (.error failure, middle) ∧
            (rounds nested locals item body items.length before.length rest).run start =
              (.error failure, middle)) := by
  -- on the rounds to come: those before only number this one
  induction rest generalizing before start with
  | nil =>
    have all : before.length = items.length := by simp [split]
    refine ⟨before.length, fun _ => start, fun _ => ⟨[], [], []⟩, le_rfl, rfl, ?_,
      .inl ⟨all, rfl⟩⟩
    intro i low high
    omega
  | cons value rest ih =>
    have here : items[before.length]? = some value := by simp [split]
    rw [rounds, Render.run_bind]
    rcases ran : (nested (loopLocals locals item value before.length items.length) body).run start
      with ⟨failure | rendered, middle⟩
    · refine ⟨before.length, fun _ => start, fun _ => ⟨[], [], []⟩, le_rfl, rfl, ?_,
        .inr ⟨failure, middle, ⟨value, here, ran⟩, rfl⟩⟩
      intro i low high
      omega
    · have split' : items = (before ++ [value]) ++ rest := by simp [split]
      have next : (before ++ [value]).length = before.length + 1 := by simp
      obtain ⟨count, state, inner, behind, starts, ends, outcome⟩ := ih split' middle
      rw [next] at behind starts ends outcome
      have later (i : Nat) (h : before.length + 1 ≤ i) : i ≠ before.length := by omega
      refine ⟨count, Function.update state before.length start,
        Function.update inner before.length rendered, by omega, Function.update_self .., ?_, ?_⟩
      · intro i low high
        rw [Function.update_of_ne (later (i + 1) (by omega))]
        by_cases first : i = before.length
        · subst first
          rw [Function.update_self, Function.update_self, starts]
          exact ⟨value, here, ran⟩
        · rw [Function.update_of_ne first, Function.update_of_ne first]
          exact ends i (by omega) high
      · have outputs : (List.range' (before.length + 1) rest.length).map
            (fun i => (Function.update inner before.length rendered i).output) =
            (List.range' (before.length + 1) rest.length).map fun i => (inner i).output := by
          refine List.map_congr_left fun i mem => ?_
          rw [Function.update_of_ne (later i (List.mem_range'_1.mp mem).1)]
        rw [Function.update_of_ne (later count behind)]
        rcases outcome with ⟨all, ran'⟩ | ⟨failure, stop, fails, ran'⟩
        · refine .inl ⟨all, ?_⟩
          rw [List.length_cons, List.range'_succ, List.map_cons, Function.update_self, outputs]
          simp only [Render.run_bind, ran', Render.run_pure]
        · refine .inr ⟨failure, stop, fails, ?_⟩
          simp only [Render.run_bind, ran']

end Rounds

end Fill

/-! ## What a round sees -/

namespace Env

variable (locals globals values : Scope) (item : Text) (value : Value) (index length : Nat)

/-- What is seen in a round of a loop. -/
def inRound : Lookup :=
  Env.lookup ⟨Fill.loopLocals locals item value index length, globals, values⟩

/-- **The names in a round**: the element, what the loop tells, and the names around it. -/
theorem get?_inRound (name : Text) :
    (inRound locals globals values item value index length).get? name =
      if name = "loop".toList then some (Fill.loopInfo index length)
      else if name = item then some value
      else (Env.lookup ⟨locals, globals, values⟩).get? name := by
  have here : (Fill.loopLocals locals item value index length).get? name =
      if name = "loop".toList then some (Fill.loopInfo index length)
      else if name = item then some value else Bindings.get? locals name := by
    simp only [Fill.loopLocals, Bindings.get?_insert, eq_comm]
  rw [inRound, get?_lookup, get?_lookup, here]
  by_cases isLoop : name = "loop".toList
  · rw [if_pos isLoop, if_pos isLoop]
    rfl
  · rw [if_neg isLoop, if_neg isLoop]
    by_cases isItem : name = item
    · rw [if_pos isItem, if_pos isItem]
      rfl
    · rw [if_neg isItem, if_neg isItem]

/-- What a loop tells about a round, field by field. -/
def roundFields : List (Text × Value) :=
  [("index".toList, .number (Number.ofNat (index + 1))),
    ("index0".toList, .number (Number.ofNat index)),
    ("length".toList, .number (Number.ofNat length)),
    ("first".toList, .bool (decide (index = 0))),
    ("last".toList, .bool (decide (index + 1 = length)))]

/-- A field of what a loop tells is one segment of a path. -/
theorem follow?_loopInfo {field : Text} {told : Value}
    (mem : (field, told) ∈ roundFields index length) :
    Path.segments ("loop.".toList ++ field) = ["loop".toList, field] ∧
      Path.follow? (Fill.loopInfo index length) [field] = some told := by
  simp only [roundFields, List.mem_cons, Prod.mk.injEq, List.not_mem_nil, or_false] at mem
  rcases mem with ⟨rfl, rfl⟩ | ⟨rfl, rfl⟩ | ⟨rfl, rfl⟩ | ⟨rfl, rfl⟩ | ⟨rfl, rfl⟩ <;>
    exact ⟨by decide, rfl⟩

/-- **What a loop tells about a round** is named by a path, unless a value is bound to the whole
path. -/
theorem resolve?_inRound (isName : Path.isIdentifier item = true) {field : Text} {told : Value}
    (mem : (field, told) ∈ roundFields index length) :
    Path.resolve? (inRound locals globals values item value index length)
        ("loop.".toList ++ field) =
      some (((Env.lookup ⟨locals, globals, values⟩).get? ("loop.".toList ++ field)).getD told) := by
  obtain ⟨segments, followed⟩ := follow?_loopInfo index length mem
  have dot : '.' ∈ "loop.".toList ++ field := List.mem_append_left _ (by decide)
  have notLoop : "loop.".toList ++ field ≠ "loop".toList := by
    intro same
    rw [same] at dot
    exact absurd dot (by decide)
  have notItem : "loop.".toList ++ field ≠ item := by
    intro same
    rw [same] at dot
    have name := Path.isNameCharacter_of_isIdentifier isName '.' dot
    have other : Path.isNameCharacter '.' = false := by decide +kernel
    rw [other] at name
    cases name
  have whole := get?_inRound locals globals values item value index length ("loop.".toList ++ field)
  rw [if_neg notLoop, if_neg notItem] at whole
  have start : Path.start? (inRound locals globals values item value index length) "loop" =
      some (Fill.loopInfo index length) := by
    rw [Path.start?, get?_inRound, if_pos rfl]
    rfl
  rw [Path.resolve?, whole]
  cases (Env.lookup ⟨locals, globals, values⟩).get? ("loop.".toList ++ field) with
  | some bound => rfl
  | none =>
    simp only [segments, start, Option.bind_some, followed]
    rfl

end Env

/-! ## What a loop does -/

namespace ForBlock

variable (block : ForBlock)

/-- The values that the loop runs over, where loops and variables are as given. -/
def items (setup : Setup) (locals globals : Scope) : List Value :=
  Fill.loopItems (Path.resolve? (Env.lookup ⟨locals, globals, setup.values⟩) block.list)

/-- The outputs of rounds as the text of the loop. -/
def textOf (outputs : List Text) : Text := Text.trim (Text.join "\n" outputs)

/-- Rounds that output nothing but blanks leave nothing of the loop. -/
theorem textOf_of_isBlank {outputs : List Text}
    (blank : ∀ output ∈ outputs, ∀ c ∈ output, Text.isBlank c = true) : textOf outputs = [] := by
  have whole : ∀ c ∈ Text.join "\n" outputs, Text.isBlank c = true := by
    induction outputs with
    | nil => exact List.forall_mem_nil _
    | cons first others ih =>
      obtain ⟨here, later⟩ := List.forall_mem_cons.mp blank
      rcases eq_or_ne others [] with rfl | more
      · rwa [Text.join, List.intercalate_singleton]
      · rw [Text.join, List.intercalate_cons_of_ne_nil more]
        have line : ∀ c ∈ "\n".toList, Text.isBlank c = true := List.all_eq_true.mp rfl
        simp only [List.forall_mem_append]
        exact ⟨⟨here, line⟩, ih later⟩
  have trimmed := Text.trim_append_of_isTrimmed Text.isTrimmed_nil whole (List.forall_mem_nil _)
  rwa [List.append_nil, List.append_nil] at trimmed

/-- What the rounds of the loop do. -/
def rounds (nested : Nested) (locals : Scope) (items : List Value) : Render (Option Text) :=
  Fill.rounds nested locals block.item block.body items.length 0 items >>= fun outputs =>
    pure (some (textOf outputs))

section Run

variable {block} {setup : Setup} {nested : Nested} {locals : Scope} {p : Placeholder}
  (loop : p.toSpan = block.span) (begun : Progress)
include loop

/-- **What a loop does** is what its rounds do, or its last text if it has no rounds. -/
theorem run_placeholder :
    (Fill.placeholder setup nested locals p).run begun =
      (match block.items setup locals begun.globals with
        | [] => Fill.otherwise nested locals block.otherwise
        | items => block.rounds nested locals items).run begun := by
  obtain ⟨span, offset⟩ := p
  obtain rfl : span = block.span := loop
  change (Fill.loop setup nested locals block.directive block.text).run begun = _
  simp only [Fill.loop, block.loopHead?_directive, block.loopParts?_text, Render.run_bind,
    Render.run_env]
  change (match block.items setup locals begun.globals with | [] => _ | _ => _ : Render _).run
    begun = _
  cases block.items setup locals begun.globals with
  | nil => cases block.otherwise <;> rfl
  | cons => rfl

theorem run_placeholder_of_nil (empty : block.items setup locals begun.globals = []) :
    (Fill.placeholder setup nested locals p).run begun =
      (Fill.otherwise nested locals block.otherwise).run begun := by
  rw [run_placeholder loop, empty]

theorem run_placeholder_of_ne_nil (any : block.items setup locals begun.globals ≠ []) :
    (Fill.placeholder setup nested locals p).run begun =
      (block.rounds nested locals (block.items setup locals begun.globals)).run begun := by
  rw [run_placeholder loop]
  obtain ⟨first, others, same⟩ := List.exists_cons_of_ne_nil any
  rw [same]

variable {text : Text} {earlier : Replacements} {later : List Placeholder}

/-- Without rounds the last text of the loop takes its place. -/
theorem run_resume_of_nil (empty : block.items setup locals begun.globals = []) :
    let goOn (output : Text) :=
      Fill.resume setup nested locals text (earlier ++ [(p.raw, output)]) later
    (Fill.resume setup nested locals text earlier (p :: later)).run begun =
      match block.otherwise with
      | some other => (nested locals other >>= fun inner => goOn inner.output).run begun
      | none => (goOn []).run begun := by
  intro goOn
  rw [Fill.resume_cons, Render.run_bind, run_placeholder_of_nil loop begun empty,
    ← Render.run_bind]
  cases block.otherwise with
  | none => rfl
  | some other =>
    rw [Fill.otherwise, Fill.inside_bind]
    rfl

/-- **With rounds** the loop is replaced by what they output, or the render fails as the first of
them that fails. -/
theorem run_resume_of_ne_nil (any : block.items setup locals begun.globals ≠ []) :
    let items := block.items setup locals begun.globals
    let ends := Fill.RoundEnds nested locals block.item block.body items
    let run := (Fill.resume setup nested locals text earlier (p :: later)).run begun
    ∃ (count : Nat) (state : Nat → Progress) (inner : Nat → Rendered),
      state 0 = begun ∧ (∀ i < count, ends i (state i) (.ok (inner i), state (i + 1))) ∧
      ((count = items.length ∧
          run =
            let output := textOf ((List.range count).map fun i => (inner i).output)
            (Fill.resume setup nested locals text (earlier ++ [(p.raw, output)]) later).run
              (state count)) ∨
        ∃ failure middle, ends count (state count) (.error failure, middle) ∧
          run = (.error failure, middle)) := by
  intro items ends run
  have split : items = [] ++ items := rfl
  obtain ⟨count, state, inner, -, starts, rounds, outcome⟩ :=
    Fill.run_rounds nested locals block.item block.body split begun
  have whole : run = ((block.rounds nested locals items) >>= fun text? =>
      Fill.resume setup nested locals text (earlier ++ Fill.replacement setup p text?) later).run
        begun := by
    rw [Render.run_bind, ← run_placeholder_of_ne_nil loop begun any, ← Render.run_bind,
      ← Fill.resume_cons]
  refine ⟨count, state, inner, starts, fun i below => rounds i (Nat.zero_le i) below, ?_⟩
  rw [whole, ForBlock.rounds, bind_assoc, Render.run_bind]
  rcases outcome with ⟨all, ran⟩ | ⟨failure, middle, fails, ran⟩
  · rw [List.length_nil] at ran
    refine .inl ⟨all, ?_⟩
    rw [ran, all, List.range_eq_range']
    rfl
  · rw [List.length_nil] at ran
    refine .inr ⟨failure, middle, fails, ?_⟩
    rw [ran]

end Run

/-- **A loop runs over its list.** The loop is one placeholder, and one span wherever a text is
read from its start. Let a text be rendered that has the loop among its placeholders, and let
those in front of it be filled. If the name or path of the list leads to a list with elements or
to an object with fields, its values are taken one after the other: the rounds up to some `count`
end, each from the progress that the one before has left. Either these are all rounds; then the
loop is replaced by their outputs, one line each, without blanks at the ends, and the render goes
on behind it with the bindings of the loops around it. Or round `count` fails, and the render
fails as it does. If there is nothing to run over, the text behind `elsefor` is rendered once, or
the output is empty.

A round sees the value under the name of the element, and each field of what the loop tells under
its path, unless a value is bound to the whole path. Other names are those around the loop. -/
theorem folds_over_items (block : ForBlock) :
    (scan block.text = [block.placeholder] ∧
      ∀ behind, layout (block.text ++ behind) = (layout behind).pushSpan [] block.span) ∧
    (∀ (setup : Setup) (levels : Nat) (locals : Scope) (text : Text)
        (front later : List Placeholder) (p : Placeholder) (start : Progress),
      scan text = front ++ p :: later → p.toSpan = block.span →
      let nested := renderWithin setup levels
      let run := (renderWithin setup (levels + 1) locals text).run start
      match (Fill.placeholders setup nested locals front).run
          { start with trail := .scanned text :: start.trail } with
      | (.error failure, middle) => run = (.error failure, middle)
      | (.ok earlier, begun) =>
        let items := block.items setup locals begun.globals
        let ends := Fill.RoundEnds nested locals block.item block.body items
        let goOn (output : Text) :=
          Fill.resume setup nested locals text (earlier ++ [(p.raw, output)]) later
        (items ≠ [] → ∃ (count : Nat) (state : Nat → Progress) (inner : Nat → Rendered),
          state 0 = begun ∧ (∀ i < count, ends i (state i) (.ok (inner i), state (i + 1))) ∧
          ((count = items.length ∧
              run = (goOn (textOf ((List.range count).map fun i => (inner i).output))).run
                (state count)) ∨
            ∃ failure middle, ends count (state count) (.error failure, middle) ∧
              run = (.error failure, middle))) ∧
        (items = [] →
          run =
            match block.otherwise with
            | some other => (nested locals other >>= fun inner => goOn inner.output).run begun
            | none => (goOn []).run begun)) ∧
    ∀ (locals globals values : Scope) (value : Value) (i length : Nat),
      let around := Env.lookup ⟨locals, globals, values⟩
      let inside := Env.inRound locals globals values block.item value i length
      inside.get? block.item = some value ∧
      (∀ field told, (field, told) ∈ Env.roundFields i length →
        let path := "loop.".toList ++ field
        Path.resolve? inside path = some ((around.get? path).getD told)) ∧
      ∀ name, name ≠ block.item → name ≠ "loop".toList → inside.get? name = around.get? name := by
  refine ⟨⟨block.scan_text, block.layout_text_append⟩, ?_, ?_⟩
  · intro setup levels locals text front later p start scanned loop nested run
    have whole : run = _ := run_renderWithin_of_append scanned setup levels locals start
    rw [whole]
    rcases (Fill.placeholders setup nested locals front).run _ with ⟨failure | earlier, begun⟩
    · rfl
    · exact ⟨run_resume_of_ne_nil loop begun, run_resume_of_nil loop begun⟩
  · intro locals globals values value i length around inside
    refine ⟨?_, ?_, ?_⟩
    · rw [Env.get?_inRound, if_neg block.item_ne, if_pos rfl] -- the element hides names around
    · intro field told mem path
      exact Env.resolve?_inRound locals globals values block.item value i length
        block.isIdentifier_item mem
    · intro name notItem notLoop
      rw [Env.get?_inRound, if_neg notLoop, if_neg notItem]

/-- Two values make two rounds, and the placeholder behind the loop is filled with what is bound
around it. -/
theorem folds_over_items_of_two :
    let tag (inner : String) : Text := Markup.opening ++ inner.toList ++ Markup.closing
    let body := tag " loop.index " ++ " of ".toList ++ tag " loop.length " ++ tag " x "
    let setup := ({ loader := Loader.ofTemplates [] } : Session).setup 0
      [("xs".toList, .list [.text "a".toList, .null])]
    let nested := renderWithin setup 1
    let begun : Progress := {}
    ∃ block : ForBlock,
      block.text = tag " for x in xs " ++ body ++ tag " elsefor " ++ tag " x " ++ tag " endfor " ∧
      ∃ (state : Nat → Progress) (inner : Nat → Rendered),
        state 0 = { begun with trail := [.scanned (block.text ++ tag " x ")] } ∧
        (∀ i < 2, Fill.RoundEnds nested [] "x".toList body [.text "a".toList, .null] i (state i)
          (.ok (inner i), state (i + 1))) ∧
        (renderWithin setup 2 [] (block.text ++ tag " x ")).run begun =
          (Fill.resume setup nested [] (block.text ++ tag " x ")
            [(block.text, textOf [(inner 0).output, (inner 1).output])]
            [⟨⟨tag " x ", "x".toList, .simple⟩, Text.byteLength block.text⟩]).run (state 2) := by
  intro tag body setup nested begun
  let block : ForBlock :=
    { item := "x".toList
      list := "xs".toList
      body := body
      otherwise := some (tag " x ")
      isIdentifier_item := by decide +kernel
      item_ne := by decide
      isPath_list := by decide +kernel
      isPart_body := by decide +kernel
      isPart_otherwise := by decide +kernel }
  have written : block.text =
      tag " for x in xs " ++ body ++ tag " elsefor " ++ tag " x " ++ tag " endfor " := by
    decide +kernel
  have scanned : scan (block.text ++ tag " x ") = [] ++ block.placeholder ::
      [⟨⟨tag " x ", "x".toList, .simple⟩, Text.byteLength block.text⟩] := by decide +kernel
  have items : block.items setup [] begun.globals = [.text "a".toList, .null] := rfl
  have fine : ((renderWithin setup 2 [] (block.text ++ tag " x ")).run begun).1.isOk = true := by
    decide +kernel
  obtain ⟨-, runs, -⟩ := folds_over_items block
  obtain ⟨rounds, -⟩ := runs setup 1 [] _ [] _ block.placeholder begun scanned rfl
  obtain ⟨count, state, inner, starts, ends, outcome⟩ := rounds (by simp [items])
  rw [items] at ends outcome
  rcases outcome with ⟨rfl, ran⟩ | ⟨failure, middle, -, ran⟩
  · exact ⟨block, written, state, inner, starts, ends, ran⟩
  · rw [ran] at fine
    cases fine

/-- A value supplied under the whole path comes before what the loop tells: the first round does
not see its own number. -/
theorem hidden_loop_index :
    let tag (inner : String) : Text := Markup.opening ++ inner.toList ++ Markup.closing
    let session : Session := { loader := Loader.ofTemplates [] }
    let values : Values := [("loop.index".toList, .text "X".toList), ("xs".toList, .list [.null])]
    ∃ block : ForBlock,
      block.text = tag " for x in xs " ++ tag " loop.index " ++ tag " endfor " ∧
      block.items (session.setup 0 values) [] [] = [.null] ∧
      ("index".toList, .number (Number.ofNat 1)) ∈ Env.roundFields 0 1 ∧
      (session.render 0 block.text values).1 = .ok "X".toList ∧
      Value.display (.number (Number.ofNat 1)) = "1".toList := by
  intro tag session values
  let block : ForBlock :=
    { item := "x".toList
      list := "xs".toList
      body := tag " loop.index "
      otherwise := none
      isIdentifier_item := by decide +kernel
      item_ne := by decide
      isPath_list := by decide +kernel
      isPart_body := by decide +kernel
      isPart_otherwise := by decide }
  exact ⟨block, by decide +kernel, rfl, List.mem_cons_self .., by decide +kernel,
    by decide +kernel⟩

end ForBlock

end Stencil
