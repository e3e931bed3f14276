import Stencil.Proofs.Markup.Visit

/-!
# Plain text around a text

Text without opening braces in front, and text without closing braces behind, take no part in
the search for spans. This holds for every text between them: a stray marker, a block without
an end or half a keyword at its end finds nothing in its surroundings to go on with.

## Main definitions

* `Layout.appendTail`: a layout with text behind it
* `Placeholder.shift`: a placeholder further behind

## Main results

* `layout_append_left`, `layout_append_right`: the spans are those of the text alone
* `scan_surrounded`: the placeholders are those of the text alone, shifted
-/

namespace Stencil.Markup

variable {front behind text : Text}

/-! ## Layouts -/

namespace Layout

/-- Puts text behind. -/
def appendTail (layout : Layout) (text : Text) : Layout := ⟨layout.spans, layout.tail ++ text⟩

@[simp] theorem appendTail_pushSpan (before : Text) (span : Span) (layout : Layout) :
    (layout.pushSpan before span).appendTail text =
      (layout.appendTail text).pushSpan before span := rfl

@[simp] theorem appendTail_pushText (before : Text) (layout : Layout) :
    (layout.pushText before).appendTail text = (layout.appendTail text).pushText before := by
  obtain ⟨_ | ⟨⟨_, _⟩, _⟩, tail⟩ := layout <;> simp [pushText, appendTail]

@[simp] theorem pushText_pushSpan (before : Text) (span : Span) (layout : Layout) :
    (layout.pushSpan before span).pushText front = layout.pushSpan (front ++ before) span := rfl

@[simp] theorem pushText_pushText (before : Text) (layout : Layout) :
    (layout.pushText before).pushText front = layout.pushText (front ++ before) := by
  obtain ⟨_ | ⟨⟨_, _⟩, _⟩, tail⟩ := layout <;> simp [pushText]

end Layout

/-- **Plain text in front** belongs to the text before the first span. -/
theorem layout_append_left (plain : '{' ∉ front) (text : Text) :
    layout (front ++ text) = (layout text).pushText front := by
  -- the same tag is found, so both layouts take the same step; no induction is needed
  have search := nextTag?_append_left (not_opening_infix_of_notMem plain)
    (fun last => plain (List.mem_of_getLast? last)) text
  cases found : nextTag? text with
  | none =>
    rw [found] at search
    rw [layout_of_none search, layout_of_none found]
    rfl
  | some tag =>
    rw [found] at search
    cases block : (Kind.classify (normalize tag.inner)).closingKeyword? with
    | none =>
      rw [layout_of_single search block, layout_of_single found block, Layout.pushText_pushSpan]
      rfl
    | some keyword =>
      cases ending : blockEnd? keyword tag.after with
      | none =>
        rw [layout_of_unclosed search block ending, layout_of_unclosed found block ending,
          Layout.pushText_pushText, List.append_assoc]
      | some cut =>
        obtain ⟨body, after⟩ := cut
        rw [layout_of_block search block ending, layout_of_block found block ending,
          Layout.pushText_pushSpan]
        rfl

/-- **Plain text behind** belongs to the text after the last span. -/
theorem layout_append_right (plain : '}' ∉ behind) (text : Text) :
    layout (text ++ behind) = (layout text).appendTail behind := by
  fun_induction layout text with
  | case1 text none => rw [layout_of_none (nextTag?_append_right plain none)]; rfl
  | case2 text tag found directive kind single ih =>
    rw [layout_of_single (nextTag?_append found behind) single, ih,
      Layout.appendTail_pushSpan]
    rfl
  | case3 text tag found directive kind keyword block body after ending ih =>
    have hne := Kind.closingKeyword?_ne_nil block
    obtain ⟨same, closed⟩ := (blockEnd?_eq_some_iff hne).mp ending
    have ending' : blockEnd? keyword (tag.after ++ behind) = some (body, after ++ behind) :=
      (blockEnd?_eq_some_iff hne).mpr ⟨by rw [same, List.append_assoc], closed⟩
    rw [layout_of_block (nextTag?_append found behind) block ending', ih,
      Layout.appendTail_pushSpan]
    rfl
  | case4 text tag found directive kind keyword block ending ih =>
    have ending' := blockEnd?_append_right (Kind.closingKeyword?_ne_nil block) plain ending
    rw [layout_of_unclosed (nextTag?_append found behind) block ending',
      Layout.appendTail_pushText, ← ih]
    simp only [List.append_assoc]

/-! ## Placeholders -/

/-- The placeholder a number of bytes further behind. -/
def Placeholder.shift (bytes : Nat) (p : Placeholder) : Placeholder :=
  { p with offset := bytes + p.offset }

theorem placeholdersFrom_shift (bytes offset : Nat) (seen : List Text)
    (spans : List (Text × Span)) :
    placeholdersFrom (bytes + offset) seen spans =
      (placeholdersFrom offset seen spans).map (Placeholder.shift bytes) := by
  induction spans generalizing offset seen with
  | nil => rfl
  | cons first rest ih =>
    obtain ⟨before, span⟩ := first
    simp only [placeholdersFrom, Nat.add_assoc bytes, ih]
    split <;> rfl

theorem placeholdersFrom_pushText (offset : Nat) (seen : List Text) (front : Text)
    (layout : Layout) :
    placeholdersFrom offset seen (layout.pushText front).spans =
      placeholdersFrom (offset + Text.byteLength front) seen layout.spans := by
  obtain ⟨_ | ⟨⟨before, span⟩, rest⟩, tail⟩ := layout
  · rfl
  · simp [Layout.pushText, placeholdersFrom, Nat.add_assoc]

/-- **The placeholders of a text in plain surroundings** are its own, shifted by the bytes in
front. -/
theorem scan_surrounded (hfront : '{' ∉ front) (hbehind : '}' ∉ behind) (text : Text) :
    scan (front ++ text ++ behind) =
      (scan text).map (Placeholder.shift (Text.byteLength front)) := by
  rw [scan, List.append_assoc, layout_append_left hfront, layout_append_right hbehind,
    placeholdersFrom_pushText, Nat.zero_add, Layout.appendTail]
  exact placeholdersFrom_shift (Text.byteLength front) 0 [] (layout text).spans

end Stencil.Markup
