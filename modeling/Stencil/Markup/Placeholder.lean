import Stencil.Markup.Tag

/-!
# Placeholders

A placeholder is what a template leaves open: a single tag, or a block that runs from its
opening tag through a closing one. Blocks are not balanced: the first closing keyword ends
a block, whatever stands between.

## Main definitions

* `Markup.Kind`: how a placeholder is filled, decided by its first word
* `Markup.Layout`: a text taken apart into spans and the text around them
* `Markup.layout`: the spans of a text, visited from left to right
* `Markup.Placeholder`, `Markup.scan`: the distinct spans with their offsets

## Main results

* `Markup.text_layout`: the parts of a layout make up the text
-/

namespace Stencil.Markup

/-! ### Kinds -/

/-- How a placeholder is filled. -/
inductive Kind where
  /-- A value followed by a pipeline of directives. -/
  | simple
  /-- An assignment. -/
  | assignment
  /-- Another template. -/
  | inclusion
  /-- A block with conditions. -/
  | conditional
  /-- A block that is repeated. -/
  | loop
  deriving DecidableEq, Repr

namespace Kind

/-- The keyword of a kind, or its name where there is none. -/
def name : Kind → Text
  | .simple => "simple"
  | .assignment => "set"
  | .inclusion => "import"
  | .conditional => "if"
  | .loop => "for"

/-- The kinds that a keyword asks for. -/
def ofKeyword? (keyword : Text) : Option Kind :=
  [conditional, loop, assignment, inclusion].find? fun kind => kind.name == Text.lower keyword

/-- The kind of a directive: that of its keyword, if something stands behind it. -/
def classify (directive : Text) : Kind :=
  let (keyword, rest) := splitKeyword directive
  if Text.trim rest = [] then .simple else (ofKeyword? keyword).getD .simple

/-- The keyword that closes a block of this kind. -/
def closingKeyword? : Kind → Option Text
  | .conditional => some ['e', 'n', 'd', 'i', 'f']
  | .loop => some ['e', 'n', 'd', 'f', 'o', 'r']
  | _ => none

end Kind

/-! ### Spans -/

/-- A stretch of a template that gets replaced as a whole. -/
structure Span where
  /-- The text of the stretch, markers included. -/
  raw : Text
  /-- The normalized directive of the opening tag. -/
  directive : Text
  /-- How the stretch is filled. -/
  kind : Kind
  deriving DecidableEq, Repr

/-- A text taken apart: spans, each with the text in front of it, and the text behind the
last one. -/
structure Layout where
  /-- The spans, each with the text between it and the one before. -/
  spans : List (Text × Span)
  /-- The text behind the last span. -/
  tail : Text
  deriving DecidableEq, Repr

namespace Layout

/-- The text that was taken apart. -/
def text (layout : Layout) : Text :=
  (layout.spans.flatMap fun (before, span) => before ++ span.raw) ++ layout.tail

/-- Puts text in front. -/
def pushText (text : Text) : Layout → Layout
  | ⟨[], tail⟩ => ⟨[], text ++ tail⟩
  | ⟨(before, span) :: rest, tail⟩ => ⟨(text ++ before, span) :: rest, tail⟩

/-- Puts a span in front, with text before it. -/
def pushSpan (before : Text) (span : Span) (layout : Layout) : Layout :=
  ⟨(before, span) :: layout.spans, layout.tail⟩

@[simp]
theorem text_pushText (text : Text) (layout : Layout) :
    (layout.pushText text).text = text ++ layout.text := by
  obtain ⟨spans, tail⟩ := layout
  cases spans <;> simp [pushText, Layout.text]

@[simp]
theorem text_pushSpan (before : Text) (span : Span) (layout : Layout) :
    (layout.pushSpan before span).text = before ++ span.raw ++ layout.text := by
  simp [pushSpan, Layout.text]

end Layout

/-- Where a block ends: the text up to the first closing marker behind the first closing
keyword, that marker included, and the text after it. -/
def blockEnd? (keyword text : Text) : Option (Text × Text) :=
  match Text.cut? keyword (Text.lower text) with
  | none => none
  | some (before, _) =>
    let reach := before.length + keyword.length
    match Text.cut? closing (text.drop reach) with
    | none => none
    | some (between, after) => some (text.take reach ++ between ++ closing, after)

/-- The two parts of a block end make up the text. -/
theorem eq_append_of_blockEnd? {keyword text body after : Text}
    (h : blockEnd? keyword text = some (body, after)) : text = body ++ after := by
  unfold blockEnd? at h
  split at h
  · simp at h
  · next before _ _ =>
    simp only at h
    split at h
    · simp at h
    · next between rest found =>
      simp only [Option.some.injEq, Prod.mk.injEq] at h
      obtain ⟨rfl, rfl⟩ := h
      have := Text.eq_append_of_cut? found
      calc text = text.take (before.length + keyword.length)
            ++ text.drop (before.length + keyword.length) := (List.take_append_drop _ _).symm
        _ = _ := by rw [this]; simp

/-- The spans of a text. A tag that opens no block is a span, and a block runs through its
closing tag. An opening tag of a block without an end is passed over: the search goes on
behind its opening marker. -/
def layout (text : Text) : Layout :=
  match _found : nextTag? text with
  | none => ⟨[], text⟩
  | some tag =>
    let directive := normalize tag.inner
    let kind := Kind.classify directive
    match kind.closingKeyword? with
    | none => (layout tag.after).pushSpan tag.before ⟨tag.raw, directive, kind⟩
    | some keyword =>
      match _ending : blockEnd? keyword tag.after with
      | some (body, after) =>
        (layout after).pushSpan tag.before ⟨tag.raw ++ body, directive, kind⟩
      | none => (layout (tag.inner ++ closing ++ tag.after)).pushText (tag.before ++ opening)
termination_by text.length
decreasing_by
  · exact NextTag.length_after_lt ‹_›
  · have := congrArg List.length (eq_append_of_blockEnd? _ending)
    have := NextTag.length_after_lt ‹_›
    simp only [List.length_append] at *
    omega
  · exact NextTag.length_inner_lt ‹_›

/-- The parts of a layout make up the text. -/
@[simp]
theorem text_layout (text : Text) : (layout text).text = text := by
  fun_induction layout text with
  | case1 => simp [Layout.text]
  | case2 text tag found directive kind single ih =>
    simp [ih, NextTag.eq_text found]
  | case3 text tag found directive kind keyword block body after ending ih =>
    simp [ih, NextTag.eq_text found, eq_append_of_blockEnd? ending]
  | case4 text tag found directive kind keyword block ending ih =>
    rw [Layout.text_pushText, ih]
    conv => rhs; rw [NextTag.eq_text found]
    simp [NextTag.raw]

/-! ### Placeholders -/

/-- A distinct span of a template. -/
structure Placeholder extends Span where
  /-- The byte offset of its first occurrence. -/
  offset : Nat
  deriving DecidableEq, Repr

/-- The placeholders of spans in order, each distinct text once. `offset` is the byte offset
at which the first of the spans has its text in front, and `seen` holds what came before. -/
def placeholdersFrom (offset : Nat) (seen : List Text) : List (Text × Span) → List Placeholder
  | [] => []
  | (before, span) :: rest =>
    let start := offset + Text.byteLength before
    let stop := start + Text.byteLength span.raw
    if seen.contains span.raw then placeholdersFrom stop seen rest
    else { span with offset := start } :: placeholdersFrom stop (span.raw :: seen) rest

/-- The placeholders of a text in order of their first occurrence. -/
def scan (text : Text) : List Placeholder :=
  placeholdersFrom 0 [] (layout text).spans

end Stencil.Markup
