import Stencil.Proofs.Directive.Sequence
import Stencil.Proofs.Render.Shown
import Stencil.Proofs.Text.Entity
import Stencil.Proofs.Text.Parts

/-!
# Values that are escaped at last

A pipeline whose last segment escapes markup characters gives an escaped text, whatever the segments
in front of it have made of the value. This text is the replacement of its placeholder, and a
replacement is written as it is: the pass of a substitution does not look at it again, and blocks
and imports hand it on. So no markup gets from the value into the output. Only where there is no
value, the fallback of the settings is written in its place.

## Main definitions

* `Pipeline.endsInEscape`: whether the last segment of a pipeline escapes what is in front of it
* `Pipeline.beforeLast?`: the value that the segments in front of the last one reach
* `Fill.EscapesAll`, `Fill.Lacks`: renders in which everything is escaped, and characters that no
  template has

## Main results

* `Pipeline.fst_run_of_endsInEscape`: such a pipeline gives the escaped text of this value
* `renderWithin_lacks`: if everything is escaped, all markup is that of a template
* `escaped_reaches_output`: an escaped value reaches the output as it is, and without markup
-/

namespace Stencil

open Markup (Placeholder scan)

/-! ## Pipelines -/

namespace Pipeline

/-- Whether the last of several segments escapes the value that it is given. -/
def endsInEscape (text : Text) : Bool :=
  ((segments text).tail.getLast?.bind fun last =>
    Directive.ofName? (Invocation.ofText last).name) == some .escape

/-- The value that is reached in front of the last segment. -/
def beforeLast? (pipeline : Pipeline) (text : Text) : Option Value :=
  match segments text with
  | [] => none
  | first :: rest =>
    (pipeline.start first).1.map fun value => rest.dropLast.foldl pipeline.change value

variable (pipeline : Pipeline) {segment text : Text}

theorem change_of_escape
    (escapes : Directive.ofName? (Invocation.ofText segment).name = some .escape) (value : Value) :
    pipeline.change value segment = .text (Text.escapeHtml value.display) := by
  rw [change, call?, escapes]
  rfl

/-- **A pipeline that ends in escaping** gives the escaped text of the value in front of it. -/
theorem fst_run_of_endsInEscape (ends : endsInEscape text = true) :
    (pipeline.run text).1 =
      (pipeline.beforeLast? text).map fun value => .text (Text.escapeHtml value.display) := by
  obtain ⟨first, rest, parts⟩ := exists_segments text
  rw [endsInEscape, beq_iff_eq, parts, List.tail_cons, Option.bind_eq_some_iff] at ends
  obtain ⟨last, isLast, escapes⟩ := ends
  have split := List.dropLast_append_getLast? last isLast
  rw [run, beforeLast?, parts]
  rcases started : pipeline.start first with ⟨- | value, complaints⟩
  · rw [pipeline.runSegments_cons_of_none started]
    simp [started]
  · rw [pipeline.runSegments_cons_of_some started, ← split, List.foldl_append, List.foldl_cons,
      List.foldl_nil, pipeline.change_of_escape escapes, conclude]
    simp [started, Value.isObject]

end Pipeline

/-! ## Renders in which everything is escaped -/

section Everywhere

variable {setup : Setup} {nested : Nested} {text : Text} {c : Char} {p : Placeholder}

/-- Every pipeline in the text, and in what can be rendered inside it at any depth, ends in
escaping. -/
def Fill.EscapesAll (setup : Setup) (text : Text) : Prop :=
  ∀ p, Reaches setup (scan text) p → p.kind = .simple → Pipeline.endsInEscape p.directive = true

/-- No template has the character: not the text, no text that is imported at any depth, and not the
fallback. -/
structure Fill.Lacks (setup : Setup) (text : Text) (c : Char) : Prop where
  template : c ∉ text
  imported : ∀ p content, Reaches setup (scan text) p → p.kind = .inclusion →
    Brings setup p content → c ∉ content
  fallback : ∀ replacement, setup.settings.fallback.replacement? = some replacement →
    c ∉ replacement

namespace Fill

theorem EscapesAll.inside (escapes : EscapesAll setup text) (hp : p ∈ scan text) {part : Text}
    (brings : Brings setup p part) : EscapesAll setup part :=
  fun q reaches => escapes q (.inside hp brings reaches)

theorem Lacks.inside (lacks : Lacks setup text c) (hp : p ∈ scan text) {part : Text}
    (brings : Brings setup p part) : Lacks setup part c where
  template := by
    cases brings with
    | enclosed encloses =>
      exact fun mem => lacks.template
        ((Markup.infix_of_mem_scan hp).subset (encloses.isInfix.subset mem))
    | imported kind hroot confined loaded =>
      exact lacks.imported p part (.mem hp) kind (.imported kind hroot confined loaded)
  imported q content reaches := lacks.imported q content (.inside hp brings reaches)
  fallback := lacks.fallback

/-- Markup does not arise in blocks. -/
theorem handedOn_of_markup (markup : c ∈ Text.markupChars) : HandedOn fun text => c ∉ text where
  nil := List.not_mem_nil
  lines outputs all mem := by
    obtain separator | ⟨output, here, mem⟩ := Text.mem_of_mem_join (Text.mem_of_mem_trim mem)
    · rw [List.mem_singleton.mp separator] at markup
      exact absurd markup (by decide)
    · exact all output here mem

/-- A pipeline that ends in escaping shows no markup. -/
theorem shows_of_endsInEscape {directive : Text} (ends : Pipeline.endsInEscape directive = true)
    (markup : c ∈ Text.markupChars) (locals : Scope) :
    Shows (fun text => c ∉ text) (simple setup locals directive) := by
  intro start stop text? ran shown same
  rw [run_simple, Pipeline.fst_run_of_endsInEscape _ ends] at ran
  cases ran
  rw [Option.map_map, Option.map_eq_some_iff] at same
  obtain ⟨value, -, rfl⟩ := same
  exact (Text.isEscaped_escapeHtml value.display).noMarkup c markup

end Fill

/-- **Markup in the output is markup of a template**, if everything is escaped. -/
theorem renderWithin_lacks (markup : c ∈ Text.markupChars) (levels : Nat) (locals : Scope)
    (escapes : Fill.EscapesAll setup text) (lacks : Fill.Lacks setup text c) :
    Render.Returns (renderWithin setup levels locals text) fun rendered => c ∉ rendered.output := by
  induction levels generalizing locals text with
  | zero =>
    intro start stop rendered ran
    cases ran
  | succ levels ih =>
    have shown : ∀ p ∈ scan text, Fill.Shows (fun text => c ∉ text)
        (Fill.placeholder setup (renderWithin setup levels) locals p) := fun p hp =>
      Fill.shows_placeholder (Fill.handedOn_of_markup markup)
        (fun simple => Fill.shows_of_endsInEscape (escapes p (.mem hp) simple) markup locals)
        fun locals part brings => ih locals (escapes.inside hp brings) (lacks.inside hp brings)
    intro start stop rendered ran mem
    have known := renderWithin_filled shown _ _ _ ran
    obtain ⟨covers, whole⟩ := renderWithin_returns setup _ locals text _ _ _ ran
    rw [whole, ← Replacements.written_pass] at mem
    -- what is written is kept from the text, or it replaces a placeholder
    obtain here | ⟨raw, replacement, piece, mem⟩ := Piece.mem_written mem
    · rw [Replacements.source_pass covers.ofSpans.ne_nil] at here
      exact lacks.template here
    · obtain ⟨p, -, -, text?, unmarked, found⟩ := known _ (Replacements.mem_of_mem_pass piece)
      rcases text? with - | text
      · exact lacks.fallback replacement found mem
      · exact unmarked replacement found mem

end Everywhere

/-! ## Escaped values -/

/-- **Escaping is safe and can be undone.** An escaped text has no markup and is read again, so that
different texts differ when they are escaped; and texts are escaped one behind the other. The output
of a render at any depth is written from the pieces of the text. A piece that is a placeholder
ending in escaping becomes the escaped text of its value, and without a value the fallback. Blocks
and imports hand this on: if all that is reached ends in escaping, the output has no markup that no
template has. -/
theorem escaped_reaches_output :
    (∀ text : Text, Text.IsEscaped (Text.escapeHtml text) ∧
      Text.unescapeHtml (Text.escapeHtml text) = text) ∧
    (∀ s t : Text, Text.escapeHtml s = Text.escapeHtml t → s = t) ∧
    (∀ s t : Text, Text.escapeHtml (s ++ t) = Text.escapeHtml s ++ Text.escapeHtml t) ∧
    ∀ (setup : Setup) (levels : Nat) (locals : Scope) (text : Text) (start stop : Progress)
      (rendered : Rendered),
      (renderWithin setup levels locals text).run start = (.ok rendered, stop) →
      Piece.source (rendered.replacements.pass text) = text ∧
      Piece.written (rendered.replacements.pass text) = rendered.output ∧
      (∀ p ∈ scan text, p.kind = .simple → Pipeline.endsInEscape p.directive = true →
        ∀ replacement, .replaced p.raw replacement ∈ rendered.replacements.pass text →
          ∃ globals,
            match (Fill.pipeline setup locals globals).beforeLast? p.directive with
            | some value =>
              replacement = Text.escapeHtml value.display ∧ Text.IsEscaped replacement
            | none => setup.settings.fallback.replacement? = some replacement) ∧
      (Fill.EscapesAll setup text →
        ∀ c ∈ Text.markupChars, Fill.Lacks setup text c → c ∉ rendered.output) := by
  refine ⟨fun text => ⟨Text.isEscaped_escapeHtml text, Text.unescapeHtml_escapeHtml text⟩,
    fun s t same => Text.escapeHtml_injective same, Text.escapeHtml_append, ?_⟩
  intro setup levels locals text start stop rendered success
  obtain ⟨covers, whole⟩ := renderWithin_returns setup levels locals text _ _ _ success
  refine ⟨Replacements.source_pass covers.ofSpans.ne_nil text, ?written, ?piece, ?everywhere⟩
  case written =>
    rw [Replacements.written_pass]
    exact (congrArg Rendered.output whole).symm
  case piece =>
    intro p hp simple ends replacement piece
    obtain ⟨globals, found⟩ := renderWithin_returns_simple setup levels locals text _ _ _ success p
      hp simple replacement (Replacements.mem_of_mem_pass piece)
    refine ⟨globals, ?_⟩
    rw [Pipeline.fst_run_of_endsInEscape _ ends] at found
    split
    · next value reached =>
      rw [reached] at found
      obtain rfl : Text.escapeHtml value.display = replacement := Option.some.inj found
      exact ⟨rfl, Text.isEscaped_escapeHtml value.display⟩
    · next unreached =>
      rw [unreached] at found
      exact found
  case everywhere =>
    intro escapes c markup lacks
    exact renderWithin_lacks markup levels locals escapes lacks _ _ _ success

/-- A value that has markup and an entity, shown twice. -/
theorem escaped_reaches_output_of_tag :
    let text : Text := "{{ a | upper | e }} & {{ a | upper | e }}"
    let p : Placeholder := ⟨⟨"{{ a | upper | e }}", "a | upper | e", .simple⟩, 0⟩
    let setup :=
      ({ loader := Loader.ofTemplates [] } : Session).setup 0 [("a".toList, .text "<b>&lt;")]
    let escaped : Text := "&lt;B&gt;&amp;LT;"
    p ∈ scan text ∧ p.kind = .simple ∧ Pipeline.endsInEscape p.directive = true ∧
    Fill.EscapesAll setup text ∧ '<' ∈ Text.markupChars ∧ Fill.Lacks setup text '<' ∧
    ∃ rendered stop, (renderWithin setup 1 [] text).run {} = (.ok rendered, stop) ∧
      rendered.output = escaped ++ " & ".toList ++ escaped ∧
      Piece.written (rendered.replacements.pass text) = rendered.output ∧
      .replaced p.raw escaped ∈ rendered.replacements.pass text ∧
      (∃ globals, match (Fill.pipeline setup [] globals).beforeLast? p.directive with
        | some value => escaped = Text.escapeHtml value.display ∧ Text.IsEscaped escaped
        | none => setup.settings.fallback.replacement? = some escaped) ∧
      '<' ∉ rendered.output := by
  intro text p setup escaped
  have scanned : scan text = [p] := by decide +kernel
  have hp : p ∈ scan text := by rw [scanned]; exact List.mem_cons_self
  have ends : Pipeline.endsInEscape p.directive = true := by decide +kernel
  have only : ∀ q, Fill.Reaches setup (scan text) q → q = p := fun q reaches =>
    Fill.Reaches.of_simple (scanned ▸ reaches) rfl
  have escapes : Fill.EscapesAll setup text := fun q reaches _ => only q reaches ▸ ends
  have lacks : Fill.Lacks setup text '<' := by
    refine ⟨by decide, fun q content reaches kind => ?_, nofun⟩
    rw [only q reaches] at kind
    cases kind
  have ran : ((renderWithin setup 1 [] text).run {}).1.toOption.map
      (fun rendered => (rendered.output, rendered.replacements)) =
      some (escaped ++ " & ".toList ++ escaped, [(p.raw, escaped)]) := by
    decide +kernel
  rcases success : (renderWithin setup 1 [] text).run {} with ⟨failure | rendered, stop⟩
  · rw [success] at ran
    cases ran
  rw [success] at ran
  obtain ⟨output, filled⟩ := Prod.mk.inj (Option.some.inj ran)
  have piece : .replaced p.raw escaped ∈ rendered.replacements.pass text := by
    rw [filled]
    decide +kernel
  obtain ⟨-, written, shown, everywhere⟩ :=
    escaped_reaches_output.2.2.2 setup 1 [] text {} stop rendered success
  exact ⟨hp, rfl, ends, escapes, by decide, lacks, rendered, stop, rfl, output, written, piece,
    shown p hp rfl ends escaped piece, everywhere escapes '<' (by decide) lacks⟩

end Stencil
