import Mathlib.Data.List.Nodup
import Stencil.Proofs.Markup.Delimited

/-!
# The spans that a layout visits

A span is visited between the text in front of it and the text behind it. Between the visited
spans lies plain text, and in a text without three opening braces in a row no span can be read
there: the search for a span from any place outside the visited ones finds a visited one.

## Main definitions

* `Visits text left span right`: `span` is visited in `text`, between `left` and `right`
* `NoTripleBrace text`: `text` has no three opening braces in a row

## Main results

* `Visits.exists_iff_mem`: the visited spans are those of the layout
* `Visits.of_first`, `Visits.of_pushSpan`, `Visits.of_pushText`: visits of a longer text
* `Span.Delimits.not_prefix_of_before`: no span starts in the plain text before the next tag
* `Span.Delimits.not_prefix_of_unclosed`: no span starts at the tag of a block without an end
* `Span.Delimits.not_infix_of_nextTag?`: no span starts in a text without tags
* `exists_mem_scan`, `mem_layout_of_mem_scan`: the placeholders are the visited spans
* `nodup_raw_scan`: each text is one placeholder
-/

namespace Stencil.Markup

/-! ## Visited spans -/

/-- `span` is one of the spans of `text`, with `left` in front of it and `right` behind it. -/
def Visits (text left : Text) (span : Span) (right : Text) : Prop :=
  ∃ front before back tail, layout text = ⟨front ++ (before, span) :: back, tail⟩ ∧
    left = Layout.text ⟨front, before⟩ ∧ right = Layout.text ⟨back, tail⟩

namespace Visits

variable {text rest left before right : Text} {span first : Span}

/-- A visited span and the text around it make up the text. -/
theorem eq_append (h : Visits text left span right) : text = left ++ span.raw ++ right := by
  obtain ⟨front, before, back, tail, same, rfl, rfl⟩ := h
  rw [← text_layout text, same]
  simp [Layout.text]

theorem mem (h : Visits text left span right) : span ∈ (layout text).spans.map Prod.snd := by
  obtain ⟨front, before, back, tail, same, -, -⟩ := h
  simp [same]

theorem delimits (h : Visits text left span right) : ∃ inner body, span.Delimits inner body :=
  delimits_of_mem_layout h.mem

/-- The first span of a layout is visited. -/
theorem of_first (same : layout text = (layout rest).pushSpan before span) :
    Visits text before span rest := by
  refine ⟨[], before, (layout rest).spans, (layout rest).tail, same, by simp [Layout.text], ?_⟩
  exact (text_layout rest).symm

/-- What is visited behind the first span is visited. -/
theorem of_pushSpan (same : layout text = (layout rest).pushSpan before first)
    (h : Visits rest left span right) : Visits text (before ++ first.raw ++ left) span right := by
  obtain ⟨front, gap, back, tail, rest_eq, rfl, rfl⟩ := h
  refine ⟨(before, first) :: front, gap, back, tail, ?_, by simp [Layout.text], rfl⟩
  rw [same, rest_eq]
  rfl

/-- What is visited behind plain text is visited. -/
theorem of_pushText (same : layout text = (layout rest).pushText before)
    (h : Visits rest left span right) : Visits text (before ++ left) span right := by
  obtain ⟨front, gap, back, tail, rest_eq, rfl, rfl⟩ := h
  rcases front with - | ⟨⟨lead, other⟩, front⟩
  · refine ⟨[], before ++ gap, back, tail, ?_, by simp [Layout.text], rfl⟩
    rw [same, rest_eq]
    rfl
  · refine ⟨(before ++ lead, other) :: front, gap, back, tail, ?_, by simp [Layout.text], rfl⟩
    rw [same, rest_eq]
    rfl

/-- The spans of a layout are those that are visited somewhere. -/
theorem exists_iff_mem :
    (∃ left right, Visits text left span right) ↔ span ∈ (layout text).spans.map Prod.snd := by
  constructor
  · rintro ⟨left, right, h⟩
    exact h.mem
  · intro h
    obtain ⟨⟨before, _⟩, found, rfl⟩ := List.mem_map.mp h
    obtain ⟨front, back, same⟩ := List.append_of_mem found
    exact ⟨_, _, front, before, back, (layout text).tail, by rw [← same], rfl, rfl⟩

end Visits

/-! ## Plain text holds no spans -/

/-- No three opening braces in a row. -/
def NoTripleBrace (text : Text) : Prop := ¬ ['{', '{', '{'] <:+: text

instance (text : Text) : Decidable (NoTripleBrace text) :=
  inferInstanceAs (Decidable (¬ _))

theorem NoTripleBrace.of_append {s t : Text} (h : NoTripleBrace (s ++ t)) : NoTripleBrace t :=
  fun found => h (found.trans (List.suffix_append s t).isInfix)

theorem NoTripleBrace.of_append_left {s t : Text} (h : NoTripleBrace (s ++ t)) : NoTripleBrace s :=
  fun found => h (found.trans (List.prefix_append s t).isInfix)

/-- A tag is not opened by the last two of three braces. -/
theorem NoTripleBrace.not_opening_infix_cons {inner rest : Text}
    (h : NoTripleBrace (opening ++ (inner ++ rest))) (noOpening : ¬ opening <:+: inner) :
    ¬ opening <:+: '{' :: inner := by
  rw [opening, List.infix_cons_iff]
  rintro (⟨more, same⟩ | found)
  · refine h ⟨[], more ++ rest, ?_⟩
    rw [← List.tail_eq_of_cons_eq same]
    simp [opening]
  · exact noOpening found

theorem NoTripleBrace.getLast?_ne {front rest : Text}
    (h : NoTripleBrace (front ++ (opening ++ rest))) : front.getLast? ≠ some '{' := by
  intro last
  obtain ⟨lead, rfl⟩ := List.getLast?_eq_some_iff.mp last
  exact h ⟨lead, rest, by simp [opening]⟩

namespace Span.Delimits

variable {text inner body front extra : Text} {span : Span} {tag : NextTag}

theorem not_opening_infix_cons (h : span.Delimits inner body)
    (calm : NoTripleBrace (span.raw ++ extra)) : ¬ opening <:+: '{' :: inner := by
  simp only [h.raw_eq, List.append_assoc] at calm
  exact calm.not_opening_infix_cons h.noOpening

theorem getLast?_front_ne (h : span.Delimits inner body)
    (calm : NoTripleBrace (front ++ (span.raw ++ extra))) : front.getLast? ≠ some '{' := by
  simp only [h.raw_eq, List.append_assoc] at calm
  exact calm.getLast?_ne

/-- **No span starts in the plain text before the next tag.** -/
theorem not_prefix_of_before (h : span.Delimits inner body) (calm : NoTripleBrace text)
    (found : nextTag? text = some tag) {v : Text} (same : tag.before = front ++ v)
    (hv : v ≠ []) : ¬ span.raw <+: v ++ tag.raw ++ tag.after := by
  rintro ⟨extra, start⟩
  have text_eq : text = front ++ (span.raw ++ extra) := by
    rw [start, NextTag.eq_text found, same]
    simp
  rw [text_eq] at calm found
  have last := h.getLast?_front_ne calm
  have noOpening := h.not_opening_infix_cons calm.of_append
  have long := congrArg List.length same
  have := List.length_pos_iff.mpr hv
  rw [List.length_append] at long
  rcases nextTag?_append_tag last noOpening h.noClosing (body ++ extra) with here | ⟨other, early⟩
  · -- the next tag would be the span's own, at the end of `front`
    rw [← List.append_assoc (opening ++ inner ++ closing), ← h.raw_eq, found,
      Option.some.injEq] at here
    have := congrArg (fun tag => tag.before.length) here
    simp only at this
    omega
  · -- the next tag would lie within `front`
    have later := Markup.nextTag?_append early (span.raw ++ extra)
    rw [found, Option.some.injEq] at later
    have := congrArg (fun tag => tag.before.length) later
    have := congrArg List.length (NextTag.eq_text early)
    simp only [NextTag.raw, opening, closing, List.length_append, List.length_cons] at *
    omega

/-- **No span starts at the tag of a block without an end.** -/
theorem not_prefix_of_unclosed (h : span.Delimits inner body) {keyword : Text}
    (found : nextTag? text = some tag)
    (block : (Kind.classify (normalize tag.inner)).closingKeyword? = some keyword)
    (ending : blockEnd? keyword tag.after = none) : ¬ span.raw <+: tag.raw ++ tag.after := by
  rintro ⟨extra, start⟩
  have own := h.nextTag?_append extra
  obtain ⟨noOpening, noClosing⟩ := NextTag.inner_quiet found
  rw [start, NextTag.raw, nextTag?_of_inner noOpening noClosing, Option.some.injEq,
    NextTag.mk.injEq] at own
  obtain ⟨-, rfl, after⟩ := own
  rw [← h.kind_eq] at block
  have closed : blockEnd? keyword tag.after = some (body, extra) :=
    (blockEnd?_eq_some_iff (Kind.closingKeyword?_ne_nil block)).mpr
      ⟨after, h.isBlockBody keyword block⟩
  simp [ending] at closed

/-- **No span starts in a text without tags.** -/
theorem not_infix_of_nextTag? (h : span.Delimits inner body) (none : nextTag? text = none) :
    ¬ span.raw <:+: text := by
  rintro ⟨front, extra, rfl⟩
  refine nextTag?_eq_none_iff.mp none ⟨front, inner, body ++ extra, ?_⟩
  simp [h.raw_eq]

end Span.Delimits

/-! ## The placeholders of a text -/

theorem exists_mem_placeholdersFrom {span : Span} :
    ∀ {spans : List (Text × Span)} {offset : Nat} {seen : List Text},
      span ∈ spans.map Prod.snd → span.raw ∉ seen →
        ∃ p ∈ placeholdersFrom offset seen spans, p.raw = span.raw := by
  intro spans
  induction spans with
  | nil => simp
  | cons first rest ih =>
    intro offset seen h fresh
    obtain ⟨before, other⟩ := first
    rw [placeholdersFrom]
    by_cases same : span.raw = other.raw
    · rw [← same]
      simp only [List.contains_eq_mem, fresh, decide_false, Bool.false_eq_true, if_false]
      exact ⟨_, List.mem_cons_self .., same.symm⟩
    · have h : span ∈ rest.map Prod.snd := by
        rcases List.mem_cons.mp h with rfl | h
        · exact absurd rfl same
        · exact h
      split
      · exact ih h fresh
      · have fresh : span.raw ∉ other.raw :: seen := by simp [same, fresh]
        obtain ⟨p, hp, raw⟩ := ih h fresh
        exact ⟨p, List.mem_cons_of_mem _ hp, raw⟩

/-- Every visited span has a placeholder. -/
theorem exists_mem_scan {text : Text} {span : Span} (h : span ∈ (layout text).spans.map Prod.snd) :
    ∃ p ∈ scan text, p.raw = span.raw :=
  exists_mem_placeholdersFrom h List.not_mem_nil

theorem mem_of_mem_placeholdersFrom {p : Placeholder} :
    ∀ {spans : List (Text × Span)} {offset : Nat} {seen : List Text},
      p ∈ placeholdersFrom offset seen spans → p.toSpan ∈ spans.map Prod.snd := by
  intro spans
  induction spans with
  | nil => simp [placeholdersFrom]
  | cons first rest ih =>
    intro offset seen h
    rw [placeholdersFrom] at h
    split at h
    · exact List.mem_cons_of_mem _ (ih h)
    · rcases List.mem_cons.mp h with rfl | h
      · exact List.mem_cons_self ..
      · exact List.mem_cons_of_mem _ (ih h)

/-- Every placeholder is a visited span. -/
theorem mem_layout_of_mem_scan {text : Text} {p : Placeholder} (h : p ∈ scan text) :
    p.toSpan ∈ (layout text).spans.map Prod.snd :=
  mem_of_mem_placeholdersFrom h

/-- Every placeholder is delimited. -/
theorem delimits_of_mem_scan {text : Text} {p : Placeholder} (h : p ∈ scan text) :
    ∃ inner body, p.toSpan.Delimits inner body :=
  delimits_of_mem_layout (mem_layout_of_mem_scan h)

theorem nodup_raw_placeholdersFrom (spans : List (Text × Span)) (offset : Nat) (seen : List Text) :
    ((placeholdersFrom offset seen spans).map fun p => p.raw).Nodup ∧
      ∀ p ∈ placeholdersFrom offset seen spans, p.raw ∉ seen := by
  induction spans generalizing offset seen with
  | nil => exact ⟨List.nodup_nil, fun p mem => absurd mem List.not_mem_nil⟩
  | cons first rest ih =>
    obtain ⟨before, span⟩ := first
    rw [placeholdersFrom]
    split
    · exact ih ..
    · next fresh =>
      obtain ⟨nodup, unseen⟩ :=
        ih (offset + Text.byteLength before + Text.byteLength span.raw) (span.raw :: seen)
      rw [List.contains_iff_mem] at fresh
      refine ⟨List.nodup_cons.mpr ⟨?_, nodup⟩, List.forall_mem_cons.mpr ⟨fresh, ?_⟩⟩
      · intro again
        obtain ⟨p, mem, same⟩ := List.mem_map.mp again
        exact unseen p mem (same ▸ List.mem_cons_self ..)
      · exact fun p mem known => unseen p mem (List.mem_cons_of_mem _ known)

/-- **Each text is one placeholder**, however often it is visited. -/
theorem nodup_raw_scan (text : Text) : ((scan text).map fun p => p.raw).Nodup :=
  (nodup_raw_placeholdersFrom _ 0 []).1

theorem eq_of_raw_eq {text : Text} {p q : Placeholder} (hp : p ∈ scan text) (hq : q ∈ scan text)
    (same : p.raw = q.raw) : p = q :=
  List.inj_on_of_nodup_map (nodup_raw_scan text) hp hq same

/-- A placeholder stands in its text. -/
theorem infix_of_mem_scan {text : Text} {p : Placeholder} (h : p ∈ scan text) :
    p.raw <:+: text := by
  obtain ⟨left, right, visited⟩ := Visits.exists_iff_mem.mpr (mem_layout_of_mem_scan h)
  exact ⟨left, right, visited.eq_append.symm⟩

end Stencil.Markup
