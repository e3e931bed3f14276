import Stencil.Proofs.Markup.Surrounded

/-!
# Two texts, one behind the other

What a layout says is where it visits which span: a text and the places of its visited spans leave
only one layout. If the spans of two texts are visited at their places in the whole text, its layout
is therefore that of the first text followed by that of the second.

## Main definitions

* `Layout.visited`, `visited`: the visited spans with their places, repeated ones included
* `Layout.join`: a layout behind another one

## Main results

* `Layout.eq_of_visited_eq`: the places of the visited spans make up the layout
* `layout_append_of_visited`: the layout of two texts
* `scan_append_of_visited`: their placeholders
-/

namespace Stencil

open Markup

/-! ## Lengths of prefixes -/

namespace Text

theorem byteLength_eq_zero {text : Text} (h : byteLength text = 0) : text = [] := by
  cases text with
  | nil => rfl
  | cons c rest =>
    have := c.utf8Size_pos
    rw [byteLength_cons] at h
    omega

/-- Two texts at the start of the same text are told apart by their lengths. -/
theorem append_inj_of_byteLength {s s' t t' : Text} (same : s ++ t = s' ++ t')
    (length : byteLength s = byteLength s') : s = s' ∧ t = t' := by
  rcases List.append_eq_append_iff.mp same with ⟨more, rfl, rfl⟩ | ⟨more, rfl, rfl⟩
  all_goals
    rw [byteLength_append] at length
    obtain rfl : more = [] := byteLength_eq_zero (by omega)
    simp

end Text

namespace Markup

/-! ## Visited spans and their places -/

namespace Layout

/-- The visited spans with their places, where `offset` is the place of the text in front of the
first one. -/
def visitedFrom (offset : Nat) : List (Text × Span) → List Placeholder
  | [] => []
  | (before, span) :: rest =>
    let start := offset + Text.byteLength before
    ⟨span, start⟩ :: visitedFrom (start + Text.byteLength span.raw) rest

/-- The visited spans with their places. -/
def visited (layout : Layout) : List Placeholder := visitedFrom 0 layout.spans

theorem map_toSpan_visitedFrom (offset : Nat) (spans : List (Text × Span)) :
    (visitedFrom offset spans).map Placeholder.toSpan = spans.map Prod.snd := by
  induction spans generalizing offset with
  | nil => rfl
  | cons first rest ih =>
    obtain ⟨before, span⟩ := first
    rw [visitedFrom, List.map_cons, ih, List.map_cons]

theorem visitedFrom_shift (bytes offset : Nat) (spans : List (Text × Span)) :
    visitedFrom (bytes + offset) spans =
      (visitedFrom offset spans).map (Placeholder.shift bytes) := by
  induction spans generalizing offset with
  | nil => rfl
  | cons first rest ih =>
    obtain ⟨before, span⟩ := first
    simp only [visitedFrom, Nat.add_assoc bytes, ih]
    rfl

/-- **The places of the visited spans** and the text make up the layout. -/
theorem eq_of_visited_eq {one other : Layout} (same : one.text = other.text)
    (visited_eq : one.visited = other.visited) : one = other := by
  obtain ⟨spans, tail⟩ := one
  obtain ⟨spans', tail'⟩ := other
  unfold visited at visited_eq
  generalize 0 = offset at visited_eq
  -- span by span: the text in front of a span is as long as its place says
  induction spans generalizing offset spans' with
  | nil =>
    rcases spans' with - | ⟨⟨before, span⟩, rest⟩
    · rw [Layout.mk.injEq]
      exact ⟨rfl, same⟩
    · cases visited_eq
  | cons first rest ih =>
    obtain ⟨before, span⟩ := first
    rcases spans' with - | ⟨⟨before', span'⟩, rest'⟩
    · cases visited_eq
    · simp only [visitedFrom, List.cons.injEq, Placeholder.mk.injEq] at visited_eq
      obtain ⟨⟨rfl, place⟩, later⟩ := visited_eq
      have cut : before ++ (span.raw ++ Layout.text ⟨rest, tail⟩) =
          before' ++ (span.raw ++ Layout.text ⟨rest', tail'⟩) := by
        simpa [Layout.text] using same
      obtain ⟨rfl, behind⟩ := Text.append_inj_of_byteLength cut (by omega)
      have := ih rest' (List.append_cancel_left behind) _ later
      simp only [Layout.mk.injEq] at this ⊢
      exact ⟨congrArg _ this.1, this.2⟩

/-! ## Joined layouts -/

/-- A layout behind another one. -/
def join (one other : Layout) : Layout where
  spans := one.spans ++ (other.pushText one.tail).spans
  tail := (other.pushText one.tail).tail

variable (one other : Layout)

theorem text_join : (one.join other).text = one.text ++ other.text := by
  have behind := text_pushText one.tail other
  simp only [join, Layout.text, List.flatMap_append, List.append_assoc] at behind ⊢
  rw [behind]

theorem map_snd_spans_join :
    (one.join other).spans.map Prod.snd =
      one.spans.map Prod.snd ++ other.spans.map Prod.snd := by
  obtain ⟨_ | ⟨⟨before, span⟩, rest⟩, tail⟩ := other <;> simp [join, pushText]

theorem visitedFrom_append (offset : Nat) (front back : List (Text × Span)) :
    visitedFrom offset (front ++ back) =
      visitedFrom offset front ++
        visitedFrom (offset + Text.byteLength (Layout.text ⟨front, []⟩)) back := by
  induction front generalizing offset with
  | nil => simp [visitedFrom, Layout.text]
  | cons first rest ih =>
    obtain ⟨before, span⟩ := first
    simp [visitedFrom, ih, Layout.text, Nat.add_assoc]

theorem visitedFrom_pushText (offset : Nat) (front : Text) (layout : Layout) :
    visitedFrom offset (layout.pushText front).spans =
      visitedFrom (offset + Text.byteLength front) layout.spans := by
  obtain ⟨_ | ⟨⟨before, span⟩, rest⟩, tail⟩ := layout
  · rfl
  · simp [pushText, visitedFrom, Nat.add_assoc]

/-- **The spans of joined layouts** are those of the first one and, behind its text, those of the
second. -/
theorem visited_join : (one.join other).visited =
    one.visited ++ other.visited.map (Placeholder.shift (Text.byteLength one.text)) := by
  have length : Text.byteLength one.text =
      Text.byteLength (Layout.text ⟨one.spans, []⟩) + Text.byteLength one.tail := by
    simp [Layout.text]
  rw [visited, join, visitedFrom_append, visitedFrom_pushText, Nat.zero_add, ← length]
  exact congrArg _ (visitedFrom_shift _ 0 _)

end Layout

/-- The visited spans of a text with their places, repeated ones included. -/
def visited (text : Text) : List Placeholder := (layout text).visited

theorem map_toSpan_visited (text : Text) :
    (visited text).map Placeholder.toSpan = (layout text).spans.map Prod.snd :=
  Layout.map_toSpan_visitedFrom 0 _

/-- Different spans are visited in two texts. -/
theorem raw_ne_of_visited {a b : Text}
    (distinct : ∀ s ∈ visited a, ∀ t ∈ visited b, s.raw ≠ t.raw) :
    ∀ s ∈ (layout a).spans.map Prod.snd, ∀ t ∈ (layout b).spans.map Prod.snd, s.raw ≠ t.raw := by
  rw [← map_toSpan_visited a, ← map_toSpan_visited b]
  simpa using distinct

section Append

variable {a b : Text}
  (places : visited (a ++ b) = visited a ++ (visited b).map (Placeholder.shift (Text.byteLength a)))
include places

/-- **The layout of two texts**, one behind the other, if their spans are visited at their places
in the whole text. -/
theorem layout_append_of_visited : layout (a ++ b) = (layout a).join (layout b) := by
  apply Layout.eq_of_visited_eq
  · rw [Layout.text_join, text_layout, text_layout, text_layout]
  · rw [Layout.visited_join, text_layout]
    exact places

end Append

/-! ## Placeholders of joined layouts -/

/-- Only texts that are visited matter for whether they were seen. -/
theorem placeholdersFrom_congr {spans : List (Text × Span)} {offset : Nat} {seen seen' : List Text}
    (same : ∀ s ∈ spans, s.2.raw ∈ seen ↔ s.2.raw ∈ seen') :
    placeholdersFrom offset seen spans = placeholdersFrom offset seen' spans := by
  induction spans generalizing offset seen seen' with
  | nil => rfl
  | cons first rest ih =>
    obtain ⟨before, span⟩ := first
    obtain ⟨here, same⟩ := List.forall_mem_cons.mp same
    have here : seen.contains span.raw = seen'.contains span.raw := by
      simpa only [List.contains_eq_mem, decide_eq_decide] using here
    have behind : ∀ s ∈ rest, s.2.raw ∈ span.raw :: seen ↔ s.2.raw ∈ span.raw :: seen' := by
      intro s mem
      rw [List.mem_cons, List.mem_cons, same s mem]
    rw [placeholdersFrom, placeholdersFrom, here, ih same, ih behind]

theorem placeholdersFrom_append (front back : List (Text × Span)) (offset : Nat)
    (seen : List Text) :
    placeholdersFrom offset seen (front ++ back) =
      placeholdersFrom offset seen front ++
        placeholdersFrom (offset + Text.byteLength (Layout.text ⟨front, []⟩))
          (front.map (fun s => s.2.raw) ++ seen) back := by
  induction front generalizing offset seen with
  | nil => simp [placeholdersFrom, Layout.text]
  | cons first rest ih =>
    obtain ⟨before, span⟩ := first
    have place : offset + Text.byteLength (Layout.text ⟨(before, span) :: rest, []⟩) =
        offset + Text.byteLength before + Text.byteLength span.raw +
          Text.byteLength (Layout.text ⟨rest, []⟩) := by
      simp [Layout.text, Nat.add_assoc]
    rw [List.cons_append, placeholdersFrom, placeholdersFrom, place, ih, ih]
    by_cases known : seen.contains span.raw = true
    · rw [if_pos known, if_pos known]
      refine congrArg _ (placeholdersFrom_congr fun s _ => ?_)
      have : span.raw ∈ seen := List.contains_iff_mem.mp known
      simp only [List.map_cons, List.cons_append, List.mem_cons, List.mem_append]
      constructor
      · exact Or.inr
      · rintro (same | mem)
        · exact .inr (same ▸ this)
        · exact mem
    · rw [if_neg known, if_neg known, List.cons_append]
      refine congrArg _ (congrArg _ (placeholdersFrom_congr fun s _ => ?_))
      simp only [List.map_cons, List.cons_append, List.mem_cons, List.mem_append]
      exact or_left_comm

/-- **The placeholders of two texts**, one behind the other, if their spans are visited at their
places in the whole text and none of them is a span of both. -/
theorem scan_append_of_visited {a b : Text}
    (places :
      visited (a ++ b) = visited a ++ (visited b).map (Placeholder.shift (Text.byteLength a)))
    (distinct : ∀ s ∈ visited a, ∀ t ∈ visited b, s.raw ≠ t.raw) :
    scan (a ++ b) = scan a ++ (scan b).map (Placeholder.shift (Text.byteLength a)) := by
  -- for the second text it makes no difference which spans of the first were seen
  have fresh : ∀ t ∈ (layout b).spans,
      t.2.raw ∈ (layout a).spans.map (fun s => s.2.raw) ++ [] ↔ t.2.raw ∈ [] := by
    intro t ht
    refine iff_of_false ?_ List.not_mem_nil
    rw [List.append_nil]
    intro known
    obtain ⟨s, hs, same⟩ := List.mem_map.mp known
    exact raw_ne_of_visited distinct s.2 (List.mem_map_of_mem hs) t.2 (List.mem_map_of_mem ht) same
  have length : Text.byteLength a =
      Text.byteLength (Layout.text ⟨(layout a).spans, []⟩) + Text.byteLength (layout a).tail := by
    conv_lhs => rw [← text_layout a]
    simp [Layout.text]
  rw [scan, layout_append_of_visited places, Layout.join, placeholdersFrom_append,
    placeholdersFrom_pushText, Nat.zero_add, ← length, placeholdersFrom_congr fresh]
  exact congrArg _ (placeholdersFrom_shift _ 0 [] _)

end Markup

end Stencil
