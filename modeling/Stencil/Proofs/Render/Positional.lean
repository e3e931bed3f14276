import Stencil.Proofs.Markup.Visit
import Stencil.Proofs.Render.Pass

/-!
# Substitution is positional

A substitution searches the whole text for the spans to be replaced, and does not know where
the layout of the text has them. In a text without three opening braces in a row it finds
nothing else, as long as nothing to be replaced starts inside a span that stays. The layout
can then be filled span by span.

## Main definitions

* `Replacements.OfSpans`: only delimited spans are replaced
* `Replacements.Undisturbed`: nothing to be replaced starts inside a span
* `Replacements.Reaches`, `Replacements.LeavesInPlace`: what a pass does with a stretch of text
* `Replacements.AllUndisturbed`, `Replacements.AllInPlace`: the same of all spans that have no
  replacement
* `Markup.Layout.filled`: a layout with its spans filled

## Main results

* `Replacements.pass_eq_layoutPieces`: the pass follows the layout
* `Replacements.substitute_eq_filled`: the output is the filled layout
* `Replacements.leavesInPlace_iff`: when a span without a replacement stays in place
* `Replacements.allInPlace_iff`: when all of them do
* `Replacements.Reaches.substitute_eq`: a span that the pass reaches is replaced in place
-/

namespace Stencil

open Markup Piece

/-! ## Layouts that are filled -/

/-- The text of a layout with every span filled. -/
def Markup.Layout.filled (fill : Text → Text) (layout : Layout) : Text :=
  (layout.spans.flatMap fun (before, span) => before ++ fill span.raw) ++ layout.tail

namespace Replacements

/-- What becomes of a span: it is replaced, or stays as it is. -/
def fill (replacements : Replacements) (raw : Text) : Text :=
  (replacements.lookup raw).getD raw

/-- The pieces of a span. -/
def spanPieces (replacements : Replacements) (raw : Text) : List Piece :=
  match replacements.lookup raw with
  | some replacement => [replaced raw replacement]
  | none => raw.map kept

/-- The pieces of a layout. -/
def layoutPieces (replacements : Replacements) (layout : Layout) : List Piece :=
  (layout.spans.flatMap fun (before, span) =>
    before.map kept ++ replacements.spanPieces span.raw) ++ layout.tail.map kept

section Pieces

variable (replacements : Replacements) (before raw : Text) (span : Span) (layout : Layout)

@[simp] theorem written_spanPieces :
    written (replacements.spanPieces raw) = replacements.fill raw := by
  rw [spanPieces, fill]
  cases replacements.lookup raw <;> simp

@[simp] theorem source_spanPieces : source (replacements.spanPieces raw) = raw := by
  rw [spanPieces]
  cases replacements.lookup raw <;> simp

@[simp] theorem layoutPieces_pushSpan :
    replacements.layoutPieces (layout.pushSpan before span) =
      before.map kept ++ (replacements.spanPieces span.raw ++
        replacements.layoutPieces layout) := by
  simp [layoutPieces, Layout.pushSpan]

@[simp] theorem layoutPieces_pushText :
    replacements.layoutPieces (layout.pushText before) =
      before.map kept ++ replacements.layoutPieces layout := by
  obtain ⟨_ | ⟨⟨lead, first⟩, rest⟩, tail⟩ := layout <;> simp [layoutPieces, Layout.pushText]

/-- The pieces of a layout become the filled layout. -/
@[simp] theorem written_layoutPieces :
    written (replacements.layoutPieces layout) = layout.filled replacements.fill := by
  obtain ⟨spans, tail⟩ := layout
  induction spans with
  | nil => simp [layoutPieces, Layout.filled]
  | cons first rest ih => simp_all [layoutPieces, Layout.filled]

/-- The pieces of a layout are cut from its text. -/
@[simp] theorem source_layoutPieces :
    source (replacements.layoutPieces layout) = layout.text := by
  obtain ⟨spans, tail⟩ := layout
  induction spans with
  | nil => simp [layoutPieces, Layout.text]
  | cons first rest ih => simp_all [layoutPieces, Layout.text]

end Pieces

/-! ## What is asked of the replacements -/

/-- Only delimited spans are replaced. -/
def OfSpans (replacements : Replacements) : Prop :=
  ∀ r ∈ replacements, ∃ span inner body, Span.Delimits span inner body ∧ span.raw = r.1

/-- Nothing to be replaced starts inside `raw`, with `right` behind it. -/
def Undisturbed (replacements : Replacements) (raw right : Text) : Prop :=
  ∀ u v, raw = u ++ v → u ≠ [] → v ≠ [] → ∀ r ∈ replacements, ¬ r.1 <+: v ++ right

/-- The pass does not run past the end of `left`: a piece starts there, or the text ends. -/
def Reaches (replacements : Replacements) (text left : Text) : Prop :=
  ∃ front back, replacements.pass text = front ++ back ∧ source front = left

/-- The pass keeps every character of `raw` in its place between `left` and `right`. -/
def LeavesInPlace (replacements : Replacements) (text left raw right : Text) : Prop :=
  ∃ front back, replacements.pass text = front ++ raw.map kept ++ back ∧
    source front = left ∧ source back = right

/-- Nothing to be replaced starts inside a visited span that has no replacement. -/
def AllUndisturbed (replacements : Replacements) (text : Text) : Prop :=
  ∀ left span right, Visits text left span right → replacements.lookup span.raw = none →
    replacements.Undisturbed span.raw right

/-- All visited spans that have no replacement stay in place. -/
def AllInPlace (replacements : Replacements) (text : Text) : Prop :=
  ∀ left span right, Visits text left span right → replacements.lookup span.raw = none →
    replacements.LeavesInPlace text left span.raw right

variable {replacements : Replacements} {text rest left right inner body : Text} {span : Span}

theorem OfSpans.ne_nil (spans : OfSpans replacements) : ∀ r ∈ replacements, r.1 ≠ [] := by
  intro r hr
  obtain ⟨span, inner, body, delimits, same⟩ := spans r hr
  rw [← same]
  exact delimits.raw_ne_nil

/-! ## One stretch of the text -/

/-- The pass over the text in front of the next tag keeps it. -/
theorem pass_before (spans : OfSpans replacements) (calm : NoTripleBrace text) {tag : NextTag}
    (found : nextTag? text = some tag) :
    replacements.pass text =
      tag.before.map kept ++ replacements.pass (tag.raw ++ tag.after) := by
  conv_lhs => rw [NextTag.eq_text found, List.append_assoc]
  refine pass_append fun u v same hv => longest?_eq_none_iff.mpr fun r hr => ?_
  obtain ⟨span, inner, body, delimits, raw⟩ := spans r hr
  rw [← raw, ← List.append_assoc]
  exact delimits.not_prefix_of_before calm found same hv

/-- **At a span** nothing else is found. -/
theorem longest?_span (spans : OfSpans replacements) (delimits : span.Delimits inner body)
    (rest : Text) :
    replacements.longest? (span.raw ++ rest) =
      (replacements.lookup span.raw).map fun replacement => (span.raw.length, replacement) := by
  refine longest?_eq_lookup fun r hr start => ?_
  obtain ⟨other, inner', body', delimits', raw⟩ := spans r hr
  obtain ⟨extra, same⟩ := start
  rw [← raw] at same ⊢
  exact congrArg Span.raw (delimits'.eq_of_append_eq delimits same)

/-- **The pass over a span** replaces it, or keeps it if nothing starts inside it. -/
theorem pass_span (spans : OfSpans replacements) (delimits : span.Delimits inner body)
    (quiet : replacements.lookup span.raw = none → Undisturbed replacements span.raw rest) :
    replacements.pass (span.raw ++ rest) =
      replacements.spanPieces span.raw ++ replacements.pass rest := by
  have here := longest?_span spans delimits rest
  rw [spanPieces]
  cases found : replacements.lookup span.raw with
  | some replacement =>
    rw [found] at here
    exact pass_replaced delimits.raw_ne_nil here
  | none =>
    rw [found] at here
    refine pass_append fun u v same hv => ?_
    by_cases hu : u = []
    · rw [show v = span.raw by simp [same, hu]]
      exact here
    · exact longest?_eq_none_iff.mpr (quiet found u v same hu hv)

/-- A span at the start of a text is replaced. -/
theorem substitute_raw_append (spans : OfSpans replacements) (delimits : span.Delimits inner body)
    {replacement : Text} (found : replacements.lookup span.raw = some replacement) (rest : Text) :
    replacements.substitute (span.raw ++ rest) = replacement ++ replacements.substitute rest := by
  have quiet : replacements.lookup span.raw = none → Undisturbed replacements span.raw rest := by
    intro none
    rw [found] at none
    cases none
  rw [← written_pass, pass_span spans delimits quiet, written_append, written_spanPieces, fill,
    found, written_pass]
  rfl

/-- **The pass over the opening marker of a block without an end** keeps it. -/
theorem pass_unclosed (spans : OfSpans replacements) (calm : NoTripleBrace text) {tag : NextTag}
    {keyword : Text} (found : nextTag? text = some tag)
    (block : (Kind.classify (normalize tag.inner)).closingKeyword? = some keyword)
    (ending : blockEnd? keyword tag.after = none) :
    replacements.pass (tag.raw ++ tag.after) =
      opening.map kept ++ replacements.pass (tag.inner ++ closing ++ tag.after) := by
  have same : tag.raw ++ tag.after = opening ++ (tag.inner ++ closing ++ tag.after) := by
    simp [NextTag.raw]
  have text_eq := NextTag.eq_text found
  rw [same]
  refine pass_append fun u v split hv => longest?_eq_none_iff.mpr fun r hr => ?_
  obtain ⟨span, inner, body, delimits, raw⟩ := spans r hr
  rw [← raw]
  rcases u with - | ⟨c, u⟩
  · rw [← List.nil_append v, ← split, ← same]
    exact delimits.not_prefix_of_unclosed found block ending
  · rintro ⟨extra, start⟩
    obtain ⟨rfl, rest_eq⟩ := List.cons.inj split
    obtain rfl : v = ['{'] := by
      rcases u with - | ⟨d, u⟩
      · exact rest_eq.symm
      · simp_all
    rw [delimits.raw_eq] at start
    have whole : text =
        tag.before ++ '{' :: (['{'] ++ (tag.inner ++ closing ++ tag.after)) := by
      rw [text_eq, List.append_assoc, same]
      rfl
    refine calm ⟨tag.before, inner ++ closing ++ body ++ extra, ?_⟩
    rw [whole, ← start]
    simp [opening]

/-! ## The whole text -/

/-- **The pass follows the layout**, as long as nothing to be replaced starts inside a span
that stays. -/
theorem pass_eq_layoutPieces (spans : OfSpans replacements) (calm : NoTripleBrace text)
    (quiet : AllUndisturbed replacements text) :
    replacements.pass text = replacements.layoutPieces (layout text) := by
  fun_induction layout text with
  | case1 text none =>
    refine (pass_eq_map_kept fun u v same _ => longest?_eq_none_iff.mpr fun r hr => ?_).trans
      (by simp [layoutPieces])
    obtain ⟨span, inner, body, delimits, raw⟩ := spans r hr
    rw [← raw]
    intro start
    refine delimits.not_infix_of_nextTag? none (start.isInfix.trans ?_)
    exact same ▸ (List.suffix_append u v).isInfix
  | case2 text tag found directive kind single ih =>
    -- a single tag: the text in front of it, the tag, and the rest by induction
    have first := layout_of_single found single
    have calm' : NoTripleBrace tag.after :=
      NoTripleBrace.of_append (NextTag.eq_text found ▸ calm)
    rw [pass_before spans calm found, layoutPieces_pushSpan,
      ← ih calm' fun left span right h => quiet _ span right (h.of_pushSpan first)]
    exact congrArg _ (pass_span spans (delimits_of_single found single)
      (quiet _ _ _ (Visits.of_first first)))
  | case3 text tag found directive kind keyword block body after ending ih =>
    have first := layout_of_block found block ending
    have text_eq := NextTag.eq_text found
    rw [eq_append_of_blockEnd? ending, ← List.append_assoc] at text_eq
    have calm' : NoTripleBrace after := NoTripleBrace.of_append (text_eq ▸ calm)
    rw [pass_before spans calm found, layoutPieces_pushSpan,
      ← ih calm' fun left span right h => quiet _ span right (h.of_pushSpan first),
      eq_append_of_blockEnd? ending, ← List.append_assoc tag.raw]
    exact congrArg _ (pass_span spans (delimits_of_block found block ending)
      (quiet _ _ _ (Visits.of_first first)))
  | case4 text tag found directive kind keyword block ending ih =>
    -- a block without an end: the layout goes on behind its opening marker, and so does the pass
    have first := layout_of_unclosed found block ending
    have text_eq : text = (tag.before ++ opening) ++ (tag.inner ++ closing ++ tag.after) := by
      rw [NextTag.eq_text found]
      simp [NextTag.raw]
    have calm' := NoTripleBrace.of_append (text_eq ▸ calm)
    rw [pass_before spans calm found, pass_unclosed spans calm found block ending,
      ih calm' fun left span right h => quiet _ span right (h.of_pushText first)]
    simp

/-- **The output is the filled layout**, as long as nothing to be replaced starts inside a
span that stays. -/
theorem substitute_eq_filled (spans : OfSpans replacements) (calm : NoTripleBrace text)
    (quiet : AllUndisturbed replacements text) :
    replacements.substitute text = (layout text).filled replacements.fill := by
  rw [← written_pass, pass_eq_layoutPieces spans calm quiet, written_layoutPieces]

/-- **Where the pass does not run past a place**, it goes on as from the start of what is
behind. -/
theorem Reaches.pass_eq (nonempty : ∀ r ∈ replacements, r.1 ≠ [])
    (reaches : Reaches replacements text left) (cut : text = left ++ rest) :
    ∃ front, replacements.pass text = front ++ replacements.pass rest ∧ source front = left := by
  obtain ⟨front, back, same, rfl⟩ := reaches
  have whole := source_pass nonempty text
  rw [same, source_append, cut] at whole
  refine ⟨front, ?_, rfl⟩
  rw [same, ← pass_source nonempty same, List.append_cancel_left whole]

/-! ## Spans that stay in place -/

/-- A stretch that stays in place is found there in the output. -/
theorem LeavesInPlace.substitute_eq {raw : Text}
    (h : LeavesInPlace replacements text left raw right) :
    ∃ front back, source front = left ∧ source back = right ∧
      replacements.substitute text = written front ++ raw ++ written back := by
  obtain ⟨front, back, same, hleft, hright⟩ := h
  refine ⟨front, back, hleft, hright, ?_⟩
  rw [← written_pass, same]
  simp

/-- Nothing to be replaced starts inside a stretch that stays in place. -/
theorem LeavesInPlace.undisturbed (nonempty : ∀ r ∈ replacements, r.1 ≠ []) {raw : Text}
    (h : LeavesInPlace replacements text left raw right) :
    Undisturbed replacements raw right := by
  obtain ⟨front, back, same, -, rfl⟩ := h
  intro u v split _ hv r hr
  obtain ⟨c, v, rfl⟩ := List.exists_cons_of_ne_nil hv
  have at_c : replacements.pass text =
      (front ++ u.map kept) ++ kept c :: (v.map kept ++ back) := by
    rw [same, split]
    simp
  have none := not_prefix_of_kept nonempty at_c r hr
  rwa [source_append, source_map_kept] at none

/-- **When a span without a replacement stays in place**: the pass reaches its start, and
nothing to be replaced starts inside it. -/
theorem leavesInPlace_iff (spans : OfSpans replacements) (visited : Visits text left span right)
    (unresolved : replacements.lookup span.raw = none) :
    LeavesInPlace replacements text left span.raw right ↔
      Reaches replacements text left ∧ Undisturbed replacements span.raw right := by
  constructor
  · intro h
    refine ⟨?_, h.undisturbed spans.ne_nil⟩
    obtain ⟨front, back, same, hleft, -⟩ := h
    exact ⟨front, span.raw.map kept ++ back, by rw [same, List.append_assoc], hleft⟩
  · rintro ⟨reaches, quiet⟩
    obtain ⟨inner, body, delimits⟩ := visited.delimits
    obtain ⟨front, same, hleft⟩ := reaches.pass_eq spans.ne_nil
      (visited.eq_append.trans (List.append_assoc ..))
    refine ⟨front, replacements.pass right, ?_, hleft, source_pass spans.ne_nil right⟩
    rw [same, pass_span spans delimits fun _ => quiet, spanPieces, unresolved, List.append_assoc]

/-- **The pass reaches all visited spans** if nothing to be replaced starts inside one that
stays. -/
theorem reaches_of_allUndisturbed (spans : OfSpans replacements) (calm : NoTripleBrace text)
    (quiet : AllUndisturbed replacements text) (visited : Visits text left span right) :
    Reaches replacements text left := by
  have whole := pass_eq_layoutPieces spans calm quiet
  obtain ⟨front, before, back, tail, same, rfl, rfl⟩ := visited
  refine ⟨replacements.layoutPieces ⟨front, before⟩,
    replacements.spanPieces span.raw ++ replacements.layoutPieces ⟨back, tail⟩, ?_,
    source_layoutPieces ..⟩
  rw [whole, same]
  simp [layoutPieces]

/-- **When all spans without replacements stay in place**: nothing to be replaced starts
inside any of them. -/
theorem allInPlace_iff (spans : OfSpans replacements) (calm : NoTripleBrace text) :
    AllInPlace replacements text ↔ AllUndisturbed replacements text := by
  constructor
  · intro h left span right visited unresolved
    exact (h left span right visited unresolved).undisturbed spans.ne_nil
  · intro quiet left span right visited unresolved
    have reaches := reaches_of_allUndisturbed spans calm quiet visited
    exact (leavesInPlace_iff spans visited unresolved).mpr
      ⟨reaches, quiet left span right visited unresolved⟩

/-! ## Spans that are replaced in place -/

/-- **A span that the pass reaches** is exchanged for its replacement. -/
theorem Reaches.substitute_eq (reaches : Reaches replacements text left)
    (spans : OfSpans replacements) (visited : Visits text left span right) {replacement : Text}
    (found : replacements.lookup span.raw = some replacement) :
    ∃ front back, source front = left ∧ source back = right ∧
      replacements.substitute text = written front ++ replacement ++ written back := by
  obtain ⟨inner, body, delimits⟩ := visited.delimits
  obtain ⟨front, same, hleft⟩ := reaches.pass_eq spans.ne_nil
    (visited.eq_append.trans (List.append_assoc ..))
  have replaced : replacements.longest? (span.raw ++ right) =
      some (span.raw.length, replacement) := by
    rw [longest?_span spans delimits, found, Option.map_some]
  refine ⟨front, replacements.pass right, hleft, source_pass spans.ne_nil right, ?_⟩
  rw [← written_pass, same, pass_replaced delimits.raw_ne_nil replaced]
  simp

end Replacements

end Stencil
