import Stencil.Proofs.Markup.Boundary

/-!
# Spans are delimited by their own text

A span of a layout is cut out of a text by searches in its surroundings, and yet its own
text fixes it: it is a span of itself, it stays one in front of every text, and no other
span starts in the same way.

## Main definitions

* `Span.Delimits span inner body`: `span` is a tag with content `inner`, and `body` is the rest
  of the block that it opens

## Main results

* `Span.Delimits.layout_append`: a delimited span is the first span of every text that starts
  with it
* `Span.Delimits.eq_of_append_eq`: delimited spans are prefix free
* `delimits_of_mem_layout`: the spans of a layout are delimited
-/

namespace Stencil.Markup

/-! ## Steps of a layout -/

section Steps

variable {text : Text} {tag : NextTag}

theorem layout_of_none (h : nextTag? text = none) : layout text = ⟨[], text⟩ := by
  rw [layout]
  split
  · rfl
  · next found => simp [h] at found

theorem layout_of_single (h : nextTag? text = some tag)
    (single : (Kind.classify (normalize tag.inner)).closingKeyword? = none) :
    layout text = (layout tag.after).pushSpan tag.before
      ⟨tag.raw, normalize tag.inner, Kind.classify (normalize tag.inner)⟩ := by
  rw [layout]
  split
  · next found => simp [h] at found
  · next found =>
    obtain rfl := Option.some.inj (h.symm.trans found)
    simp only
    split
    · rfl
    · next block => simp [single] at block

theorem layout_of_block {keyword body after : Text} (h : nextTag? text = some tag)
    (block : (Kind.classify (normalize tag.inner)).closingKeyword? = some keyword)
    (ending : blockEnd? keyword tag.after = some (body, after)) :
    layout text = (layout after).pushSpan tag.before
      ⟨tag.raw ++ body, normalize tag.inner, Kind.classify (normalize tag.inner)⟩ := by
  rw [layout]
  split
  · next found => simp [h] at found
  · next found =>
    obtain rfl := Option.some.inj (h.symm.trans found)
    simp only
    split
    · next single => simp [block] at single
    · next found =>
      obtain rfl := Option.some.inj (block.symm.trans found)
      split
      · next found =>
        obtain ⟨rfl, rfl⟩ := Prod.mk.inj (Option.some.inj (ending.symm.trans found))
        rfl
      · next found => simp [ending] at found

theorem layout_of_unclosed {keyword : Text} (h : nextTag? text = some tag)
    (block : (Kind.classify (normalize tag.inner)).closingKeyword? = some keyword)
    (ending : blockEnd? keyword tag.after = none) :
    layout text =
      (layout (tag.inner ++ closing ++ tag.after)).pushText (tag.before ++ opening) := by
  rw [layout]
  split
  · next found => simp [h] at found
  · next found =>
    obtain rfl := Option.some.inj (h.symm.trans found)
    simp only
    split
    · next single => simp [block] at single
    · next found =>
      obtain rfl := Option.some.inj (block.symm.trans found)
      split
      · next found => simp [ending] at found
      · rfl

end Steps

/-! ## Delimited spans -/

/-- `span` is a tag with the content `inner`. If it opens a block, `body` is the text behind
the tag up to the end of the block, and otherwise there is none. -/
structure Span.Delimits (span : Span) (inner body : Text) : Prop where
  raw_eq : span.raw = opening ++ inner ++ closing ++ body
  noOpening : ¬ opening <:+: inner
  noClosing : ¬ closing <:+: inner ++ ['}']
  directive_eq : span.directive = normalize inner
  kind_eq : span.kind = Kind.classify (normalize inner)
  body_eq_nil : span.kind.closingKeyword? = none → body = []
  isBlockBody : ∀ keyword, span.kind.closingKeyword? = some keyword → IsBlockBody keyword body

namespace Span.Delimits

variable {span other : Span} {inner body inner' body' : Text}

theorem nextTag?_append (h : span.Delimits inner body) (extra : Text) :
    nextTag? (span.raw ++ extra) = some ⟨[], inner, body ++ extra⟩ := by
  rw [h.raw_eq, List.append_assoc]
  exact nextTag?_of_inner h.noOpening h.noClosing _

/-- The content and the body of a delimited span are all there is to it. -/
theorem eq_mk (h : span.Delimits inner body) :
    span = ⟨opening ++ inner ++ closing ++ body, normalize inner,
      Kind.classify (normalize inner)⟩ := by
  rw [← h.kind_eq, ← h.directive_eq, ← h.raw_eq]

/-- **A delimited span comes first** in the layout of every text that starts with it. -/
theorem layout_append (h : span.Delimits inner body) (extra : Text) :
    layout (span.raw ++ extra) = (layout extra).pushSpan [] span := by
  have tag := h.nextTag?_append extra
  cases ending : span.kind.closingKeyword? with
  | none =>
    obtain rfl := h.body_eq_nil ending
    rw [h.kind_eq] at ending
    rw [layout_of_single tag ending]
    conv_rhs => rw [h.eq_mk, List.append_nil]
    simp [NextTag.raw]
  | some keyword =>
    -- the end of the block is found in its body, whatever `extra` holds
    have found : blockEnd? keyword (body ++ extra) = some (body, extra) :=
      (blockEnd?_eq_some_iff (Kind.closingKeyword?_ne_nil ending)).mpr
        ⟨rfl, h.isBlockBody keyword ending⟩
    rw [h.kind_eq] at ending
    rw [layout_of_block tag ending found]
    conv_rhs => rw [h.eq_mk]
    rfl

/-- The text of a delimited span is one placeholder. -/
theorem scan_raw (h : span.Delimits inner body) : scan span.raw = [⟨span, 0⟩] := by
  have spans := h.layout_append []
  have empty : layout [] = ⟨[], []⟩ := layout_of_none (by decide)
  rw [List.append_nil, empty] at spans
  rw [scan, spans]
  simp [Layout.pushSpan, placeholdersFrom]

/-- **Delimited spans are prefix free**: texts that start with two of them start with the
same one. -/
theorem eq_of_append_eq (h : span.Delimits inner body) (h' : other.Delimits inner' body')
    {s t : Text} (same : span.raw ++ s = other.raw ++ t) : span = other := by
  have := congrArg layout same
  rw [h.layout_append, h'.layout_append] at this
  simp only [Layout.pushSpan, Layout.mk.injEq, List.cons.injEq, Prod.mk.injEq, true_and] at this
  exact this.1.1

theorem raw_ne_nil (h : span.Delimits inner body) : span.raw ≠ [] := by
  simp [h.raw_eq, opening]

theorem head? (h : span.Delimits inner body) : span.raw.head? = some '{' := by
  simp [h.raw_eq, opening]

theorem getLast? (h : span.Delimits inner body) : span.raw.getLast? = some '}' := by
  cases ending : span.kind.closingKeyword? with
  | none => simp [h.raw_eq, h.body_eq_nil ending, closing]
  | some keyword =>
    rw [h.raw_eq, List.getLast?_append, (h.isBlockBody keyword ending).getLast?]
    rfl

end Span.Delimits

/-- A tag that opens no block is delimited. -/
theorem delimits_of_single {text : Text} {tag : NextTag} (h : nextTag? text = some tag)
    (single : (Kind.classify (normalize tag.inner)).closingKeyword? = none) :
    Span.Delimits ⟨tag.raw, normalize tag.inner, Kind.classify (normalize tag.inner)⟩
      tag.inner [] where
  raw_eq := by simp [NextTag.raw]
  noOpening := (NextTag.inner_quiet h).1
  noClosing := (NextTag.inner_quiet h).2
  directive_eq := rfl
  kind_eq := by dsimp only
  body_eq_nil _ := rfl
  isBlockBody keyword block := by simp [single] at block

/-- A block with an end is delimited. -/
theorem delimits_of_block {text keyword body after : Text} {tag : NextTag}
    (h : nextTag? text = some tag)
    (block : (Kind.classify (normalize tag.inner)).closingKeyword? = some keyword)
    (ending : blockEnd? keyword tag.after = some (body, after)) :
    Span.Delimits ⟨tag.raw ++ body, normalize tag.inner, Kind.classify (normalize tag.inner)⟩
      tag.inner body where
  raw_eq := by simp [NextTag.raw]
  noOpening := (NextTag.inner_quiet h).1
  noClosing := (NextTag.inner_quiet h).2
  directive_eq := rfl
  kind_eq := by dsimp only
  body_eq_nil single := by simp [block] at single
  isBlockBody found same := by
    rw [block, Option.some.injEq] at same
    rw [← same]
    exact ((blockEnd?_eq_some_iff (Kind.closingKeyword?_ne_nil block)).mp ending).2

@[simp] theorem Layout.spans_pushSpan (before : Text) (span : Span) (layout : Layout) :
    (layout.pushSpan before span).spans = (before, span) :: layout.spans := rfl

@[simp] theorem Layout.map_spans_pushText (text : Text) (layout : Layout) :
    (layout.pushText text).spans.map Prod.snd = layout.spans.map Prod.snd := by
  obtain ⟨_ | ⟨⟨before, span⟩, rest⟩, tail⟩ := layout <;> rfl

/-- **The spans of a layout are delimited.** -/
theorem delimits_of_mem_layout {text : Text} {span : Span}
    (h : span ∈ (layout text).spans.map Prod.snd) : ∃ inner body, span.Delimits inner body := by
  fun_induction layout text with
  | case1 => simp at h
  | case2 text tag found directive kind single ih =>
    rw [Layout.spans_pushSpan, List.map_cons, List.mem_cons] at h
    rcases h with rfl | h
    · exact ⟨_, _, delimits_of_single found single⟩
    · exact ih h
  | case3 text tag found directive kind keyword block body after ending ih =>
    rw [Layout.spans_pushSpan, List.map_cons, List.mem_cons] at h
    rcases h with rfl | h
    · exact ⟨_, _, delimits_of_block found block ending⟩
    · exact ih h
  | case4 text tag found directive kind keyword block ending ih =>
    rw [Layout.map_spans_pushText] at h
    exact ih h

end Stencil.Markup
