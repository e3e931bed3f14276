import Mathlib.Data.List.Infix
import Mathlib.Data.List.Pairwise
import Mathlib.Order.Bounds.Defs
import Stencil.Proofs.Markup.Place
import Stencil.Proofs.Markup.Section
import Stencil.Proofs.Markup.Visit

/-!
# The innermost tag

A closing marker closes the last opening marker in front of it. Opening markers can share a brace,
and the search for the last one goes on behind the first one that was found, so of three braces in
a row that are found first, the first two open the tag and the third one is left in its content.
Otherwise a tag is the innermost one, and the braces in front of it are plain text.

## Main definitions

* `IsLastOpening text start close`: `start` is the last place in front of `close` at which the
  text reads an opening marker
* `InRun text p start`: only opening braces stand from `p` up to `start`

## Main results

* `isLastOpening_iff`: where the content of a tag decides which marker opens it
* `pairwise_tagsFrom`, `Visits.apart`: neither tags nor spans overlap
* `InRun.not_in_tag`, `InRun.not_in_span`: the braces in front of a tag are plain text
* `opens_last_iff`: which of the tags of a text, and of its placeholders, are innermost
* `isLastOpening_of_noTripleBrace`: all of them, without three braces in a row
-/

namespace Stencil.Markup

/-! ## The last opening marker -/

/-- `start` is the last place at which the text reads an opening marker that ends in front of
`close`. -/
def IsLastOpening (text : Text) (start close : Nat) : Prop :=
  IsGreatest {p | opening <+: text.drop p ∧ p + 2 ≤ close} start

/-- A marker that is read in the first of two texts stands in it. -/
theorem opening_infix_of_prefix_drop {s t : Text} {p : Nat} (h : opening <+: (s ++ t).drop p)
    (within : p + 2 ≤ s.length) : opening <:+: s := by
  rw [List.drop_append_of_le_length (by omega)] at h
  have short : opening.length ≤ (s.drop p).length := by
    rw [List.length_drop]
    change 2 ≤ _
    omega
  exact (List.prefix_of_prefix_length_le h (List.prefix_append _ _) short).isInfix.trans
    (List.drop_suffix p s).isInfix

section Content

variable {front inner rest : Text}

/-- The marker of a tag is an opening marker in front of the content. -/
theorem opening_prefix_drop (front rest : Text) :
    opening <+: (front ++ (opening ++ rest)).drop front.length := by
  rw [List.drop_left]
  exact List.prefix_append _ _

/-- One place further, an opening marker is read if the content begins with a brace. -/
theorem opening_prefix_drop_succ_iff :
    opening <+: (front ++ (opening ++ rest)).drop (front.length + 1) ↔ rest.head? = some '{' := by
  rw [← List.drop_drop, List.drop_left]
  cases rest <;> simp [opening, List.cons_prefix_cons, eq_comm]

/-- Behind that, the content has no opening marker. -/
theorem le_of_opening_prefix_drop (noOpening : ¬ opening <:+: inner) {p : Nat}
    (read : opening <+: (front ++ (opening ++ (inner ++ rest))).drop p)
    (within : p ≤ front.length + inner.length) : p ≤ front.length + 1 := by
  by_contra beyond
  obtain ⟨k, rfl⟩ : ∃ k, p = front.length + (2 + k) := ⟨p - front.length - 2, by omega⟩
  rw [← List.drop_drop, List.drop_left, ← List.drop_drop] at read
  exact noOpening (opening_infix_of_prefix_drop (p := k) read (by omega))

/-- **The last opening marker** in front of the closing one is that of the tag, or the one that
starts with the second brace of it. -/
theorem isLastOpening_iff (front : Text) (noOpening : ¬ opening <:+: inner) (extra : Text) :
    let text := front ++ opening ++ inner ++ closing ++ extra
    let close := front.length + 2 + inner.length
    (IsLastOpening text front.length close ↔ inner.head? ≠ some '{') ∧
      (IsLastOpening text (front.length + 1) close ↔ inner.head? = some '{') := by
  intro text close
  have parts : text = front ++ (opening ++ (inner ++ (closing ++ extra))) := by simp [text]
  have first : opening <+: text.drop front.length := by
    rw [parts]
    exact opening_prefix_drop ..
  have second : opening <+: text.drop (front.length + 1) ∧ front.length + 1 + 2 ≤ close ↔
      inner.head? = some '{' := by
    rw [parts, opening_prefix_drop_succ_iff]
    cases inner with
    | nil => simp [closing]
    | cons c inner =>
      have room : front.length + 1 + 2 ≤ close := by
        simp only [close, List.length_cons]
        omega
      simp [room]
  -- so there are two places for the last marker, and the content decides between them
  have bound : ∀ p, opening <+: text.drop p ∧ p + 2 ≤ close → p ≤ front.length + 1 := by
    rintro p ⟨read, within⟩
    rw [parts] at read
    exact le_of_opening_prefix_drop noOpening read (by simp only [close] at within; omega)
  constructor
  · constructor
    · rintro ⟨-, greatest⟩ brace
      have later := greatest (second.mpr brace)
      omega
    · intro plain
      refine ⟨⟨first, by simp only [close]; omega⟩, ?_⟩
      intro p read
      have near := bound p read
      by_contra beyond
      obtain rfl : p = front.length + 1 := by omega
      exact plain (second.mp read)
  · constructor
    · rintro ⟨read, -⟩
      exact second.mp read
    · intro brace
      exact ⟨second.mpr brace, fun p read => bound p read⟩

end Content

/-! ## Runs of braces -/

/-- From the place `p` up to `start` the text has opening braces only. -/
def InRun (text : Text) (p start : Nat) : Prop :=
  p < start ∧ ∀ q, p ≤ q → q < start → text[q]? = some '{'

/-- A stretch that ends with a closing brace, in front of `start`, has no place in a run. -/
theorem InRun.not_covered {text : Text} {p start first stop : Nat} (run : InRun text p start)
    (ends : text[stop - 1]? = some '}') (apart : stop ≤ start ∨ start ≤ first) :
    ¬ (first ≤ p ∧ p < stop) := by
  rintro ⟨low, high⟩
  obtain ⟨before, braces⟩ := run
  have brace := braces (stop - 1) (by omega) (by omega)
  rw [ends] at brace
  contradiction

/-! ## Tags -/

section Tags

variable {text : Text} {tag : Tag}

/-- Where a tag is written: its content is the text between its markers. -/
theorem exists_content_of_mem {position : Nat} (h : tag ∈ tagsFrom position text) :
    ∃ front inner extra, text = front ++ opening ++ inner ++ closing ++ extra ∧
      ¬ opening <:+: inner ∧ tag.start = position + front.length ∧
      tag.stop = tag.start + 2 + inner.length + 2 := by
  fun_induction tagsFrom position text with
  | case1 => cases h
  | case2 position text next found start stop ih =>
    have whole := NextTag.eq_text found
    have length : stop = start + 2 + next.inner.length + 2 := by
      simp only [stop, NextTag.raw, opening, closing, List.length_append, List.length_cons,
        List.length_nil]
      omega
    rcases List.mem_cons.mp h with rfl | h
    · refine ⟨next.before, next.inner, next.after, ?_, (NextTag.inner_quiet found).1, rfl, length⟩
      rw [whole]
      simp [NextTag.raw]
    · obtain ⟨front, inner, extra, same, noOpening, first, last⟩ := ih h
      refine ⟨next.before ++ next.raw ++ front, inner, extra, ?_, noOpening, ?_, last⟩
      · rw [whole, same]
        simp
      · simp only [first, List.length_append, stop, start]
        omega

/-- **Tags do not overlap**: each one ends before the next one starts. -/
theorem pairwise_tagsFrom (position : Nat) (text : Text) :
    (tagsFrom position text).Pairwise (fun one other => one.stop ≤ other.start) ∧
      ∀ tag ∈ tagsFrom position text, position ≤ tag.start := by
  fun_induction tagsFrom position text with
  | case1 => exact ⟨List.Pairwise.nil, fun tag mem => absurd mem List.not_mem_nil⟩
  | case2 position text next found start stop ih =>
    obtain ⟨later, behind⟩ := ih
    refine ⟨List.pairwise_cons.mpr ⟨behind, later⟩, List.forall_mem_cons.mpr ⟨?_, ?_⟩⟩
    · exact Nat.le_add_right ..
    · intro tag mem
      have := behind tag mem
      simp only [stop, start] at this
      omega

theorem tags_apart {other : Tag} (h : tag ∈ tags text) (h' : other ∈ tags text) :
    other = tag ∨ other.stop ≤ tag.start ∨ tag.stop ≤ other.start := by
  have ordered := (pairwise_tagsFrom 0 text).1
  obtain ⟨i, hi, rfl⟩ := List.getElem_of_mem h
  obtain ⟨j, hj, rfl⟩ := List.getElem_of_mem h'
  rcases Nat.lt_trichotomy i j with before | rfl | behind
  · exact .inr (.inr (List.pairwise_iff_getElem.mp ordered i j hi hj before))
  · exact .inl rfl
  · exact .inr (.inl (List.pairwise_iff_getElem.mp ordered j i hj hi behind))

end Tags

/-! ## Spans -/

/-- A visited span stands at its offset behind the spans in front of it. -/
theorem Layout.exists_append_of_mem_visitedFrom {spans : List (Text × Span)} {offset : Nat}
    {p : Placeholder} (h : p ∈ visitedFrom offset spans) :
    ∃ front before back, spans = front ++ (before, p.toSpan) :: back ∧
      p.offset = offset + Text.byteLength (Layout.text ⟨front, before⟩) := by
  induction spans generalizing offset with
  | nil => cases h
  | cons first rest ih =>
    obtain ⟨gap, span⟩ := first
    rw [visitedFrom] at h
    rcases List.mem_cons.mp h with rfl | later
    · exact ⟨[], gap, rest, rfl, rfl⟩
    · obtain ⟨front, before, back, rfl, place⟩ := ih later
      refine ⟨(gap, span) :: front, before, back, rfl, ?_⟩
      simp only [place, Layout.text, List.flatMap_cons, Text.byteLength_append]
      omega

namespace Visits

variable {text left right left' right' : Text} {span other : Span}

/-- A span that comes behind another one in the layout starts behind its end. -/
theorem length_le_of_append {front more : List (Text × Span)} {before gap : Text} :
    (Layout.text ⟨front, before⟩).length + span.raw.length ≤
      (Layout.text ⟨front ++ (before, span) :: more, gap⟩).length := by
  simp only [Layout.text, List.flatMap_append, List.flatMap_cons, List.length_append]
  omega

/-- **Spans do not overlap.** -/
theorem apart (h : Visits text left span right) (h' : Visits text left' other right') :
    left'.length = left.length ∨ left'.length + other.raw.length ≤ left.length ∨
      left.length + span.raw.length ≤ left'.length := by
  obtain ⟨front, before, back, tail, same, rfl, -⟩ := h
  obtain ⟨front', before', back', tail', same', rfl, -⟩ := h'
  rw [same, Layout.mk.injEq, List.append_eq_append_iff] at same'
  rcases same'.1 with ⟨more, rfl, behind⟩ | ⟨more, rfl, behind⟩
  · cases more with
    | nil =>
      obtain ⟨⟨rfl, -⟩, -⟩ := by simpa using behind
      simp
    | cons first more =>
      obtain ⟨rfl, -⟩ := List.cons.inj behind
      exact .inr (.inr length_le_of_append)
  · cases more with
    | nil =>
      obtain ⟨⟨rfl, -⟩, -⟩ := by simpa using behind
      simp
    | cons first more =>
      obtain ⟨rfl, -⟩ := List.cons.inj behind
      exact .inr (.inl length_le_of_append)

/-- A visited span ends with a closing brace. -/
theorem getElem?_last (h : Visits text left span right) :
    text[left.length + span.raw.length - 1]? = some '}' := by
  obtain ⟨inner, body, delimits⟩ := h.delimits
  obtain ⟨front, raw_eq⟩ := List.getLast?_eq_some_iff.mp delimits.getLast?
  rw [h.eq_append, raw_eq]
  simp

end Visits

/-- A tag ends with a closing brace. -/
theorem getElem?_last_of_mem {text : Text} {tag : Tag} (h : tag ∈ tags text) :
    text[tag.stop - 1]? = some '}' := by
  obtain ⟨front, inner, extra, rfl, -, start_eq, stop_eq⟩ := exists_content_of_mem h
  have parts : front ++ opening ++ inner ++ closing ++ extra =
      (front ++ opening ++ inner ++ ['}']) ++ '}' :: extra := by simp [closing]
  have last : tag.stop - 1 = (front ++ opening ++ inner ++ ['}']).length := by
    simp only [opening, List.length_append, List.length_cons, List.length_nil]
    omega
  rw [parts, last]
  simp

/-- Every placeholder is a visited span at its offset. -/
theorem exists_visits_of_mem_scan {text : Text} {p : Placeholder} (h : p ∈ scan text) :
    ∃ left right, Visits text left p.toSpan right ∧ p.offset = Text.byteLength left := by
  have visited := (Layout.placeholdersFrom_sublist ..).subset h
  obtain ⟨front, before, back, same, place⟩ := Layout.exists_append_of_mem_visitedFrom visited
  refine ⟨_, _, ⟨front, before, back, (layout text).tail, by rw [← same], rfl, rfl⟩, ?_⟩
  rw [place, Nat.zero_add]

/-! ## Which tags are innermost -/

/-- The content of a tag decides which marker is the last one in front of the closing one. -/
theorem exists_close_of_mem_tags {text : Text} {tag : Tag} (mem : tag ∈ tags text) :
    ∃ close, tag.stop = close + 2 ∧
      (IsLastOpening text tag.start close ↔ text[tag.start + 2]? ≠ some '{') ∧
      (IsLastOpening text (tag.start + 1) close ↔ text[tag.start + 2]? = some '{') := by
  obtain ⟨front, inner, extra, same, noOpening, start_eq, stop_eq⟩ := exists_content_of_mem mem
  rw [Nat.zero_add] at start_eq
  have content : text[tag.start + 2]? = some '{' ↔ inner.head? = some '{' := by
    rw [same, start_eq]
    cases inner <;> simp [opening, closing]
  obtain ⟨first, second⟩ := isLastOpening_iff front noOpening extra
  rw [← same, ← start_eq] at first second
  refine ⟨tag.start + 2 + inner.length, stop_eq, ?_, ?_⟩
  · rw [first, Ne, Ne, content]
  · rw [second, content]

/-- So it does where a visited span opens. -/
theorem Visits.isLastOpening_iff {text left right inner body : Text} {span : Span}
    (visited : Visits text left span right) (delimits : span.Delimits inner body) :
    (IsLastOpening text left.length (left.length + 2 + inner.length) ↔
        inner.head? ≠ some '{') ∧
      (IsLastOpening text (left.length + 1) (left.length + 2 + inner.length) ↔
        inner.head? = some '{') := by
  have same : text = left ++ opening ++ inner ++ closing ++ (body ++ right) := by
    rw [visited.eq_append, delimits.raw_eq]
    simp
  rw [same]
  exact Markup.isLastOpening_iff left delimits.noOpening (body ++ right)

/-- The braces in front of a tag lie in no tag. -/
theorem InRun.not_in_tag {text : Text} {tag other : Tag} {p : Nat} (run : InRun text p tag.start)
    (mem : tag ∈ tags text) (mem' : other ∈ tags text) :
    ¬ (other.start ≤ p ∧ p < other.stop) := by
  rcases tags_apart mem mem' with rfl | apart
  · rintro ⟨low, -⟩
    exact absurd run.1 (by omega)
  · refine run.not_covered (getElem?_last_of_mem mem') ?_
    obtain ⟨_, inner, _, _, _, _, stop_eq⟩ := exists_content_of_mem mem
    omega

/-- The braces in front of a visited span lie in no such span. -/
theorem InRun.not_in_span {text left right left' right' : Text} {span other : Span} {p : Nat}
    (run : InRun text p left.length) (visited : Visits text left span right)
    (visited' : Visits text left' other right') :
    ¬ (left'.length ≤ p ∧ p < left'.length + other.raw.length) := by
  have before := run.1
  refine run.not_covered visited'.getElem?_last ?_
  rcases visited.apart visited' with here | earlier | later
  · omega
  · omega
  · omega

/-- **A tag opens at the last opening marker** in front of its closing one exactly if its content
does not begin with a brace; if it does, the last marker starts at the second brace of the tag.
This holds of the tags of a text and of those that open its placeholders. The braces in front of the
tag are plain text: none of them lies in another tag, or in another span. -/
theorem opens_last_iff (text : Text) :
    (∀ tag ∈ tags text, ∃ close, tag.stop = close + 2 ∧
      (IsLastOpening text tag.start close ↔ text[tag.start + 2]? ≠ some '{') ∧
      (IsLastOpening text (tag.start + 1) close ↔ text[tag.start + 2]? = some '{') ∧
      ∀ p, InRun text p tag.start → ∀ other ∈ tags text, ¬ (other.start ≤ p ∧ p < other.stop)) ∧
    ∀ p ∈ scan text, ∃ left right, Visits text left p.toSpan right ∧
      p.offset = Text.byteLength left ∧ ∃ inner body, p.toSpan.Delimits inner body ∧
      (IsLastOpening text left.length (left.length + 2 + inner.length) ↔
        inner.head? ≠ some '{') ∧
      (IsLastOpening text (left.length + 1) (left.length + 2 + inner.length) ↔
        inner.head? = some '{') ∧
      ∀ p, InRun text p left.length → ∀ left' other right', Visits text left' other right' →
        ¬ (left'.length ≤ p ∧ p < left'.length + other.raw.length) := by
  constructor
  · intro tag mem
    obtain ⟨close, stop_eq, first, second⟩ := exists_close_of_mem_tags mem
    exact ⟨close, stop_eq, first, second, fun p run other mem' => run.not_in_tag mem mem'⟩
  · intro p mem
    obtain ⟨left, right, visited, place⟩ := exists_visits_of_mem_scan mem
    obtain ⟨inner, body, delimits⟩ := visited.delimits
    obtain ⟨first, second⟩ := visited.isLastOpening_iff delimits
    exact ⟨left, right, visited, place, inner, body, delimits, first, second,
      fun q run left' other right' visited' => run.not_in_span visited visited'⟩

/-- Of four braces in a row the last two open the tag, and the others are plain text. -/
theorem opens_last_iff_of_four_braces :
    let text : Text := opening ++ opening ++ " x ".toList ++ closing
    let tag : Tag := ⟨2, 9, ['x'], []⟩
    tag ∈ tags text ∧ InRun text 0 2 ∧ text[4]? ≠ some '{' ∧ IsLastOpening text 2 7 ∧
      ∀ other ∈ tags text, ¬ (other.start ≤ 0 ∧ 0 < other.stop) := by
  intro text tag
  have mem : tag ∈ tags text := by decide +kernel
  have braces : ∀ q < 2, text[q]? = some '{' := by decide
  have run : InRun text 0 2 := ⟨by omega, fun q _ before => braces q before⟩
  have plain : text[4]? ≠ some '{' := by decide
  obtain ⟨close, stop_eq, innermost, -, apart⟩ := (opens_last_iff text).1 tag mem
  obtain rfl : close = 7 := by
    change 9 = close + 2 at stop_eq
    omega
  exact ⟨mem, run, plain, innermost.mpr plain, apart 0 run⟩

/-- **Three braces in a row**: the tag opens at the first of them, though an opening marker starts
at the second one too, and the third one becomes a part of its directive. -/
theorem opens_before_last :
    let text : Text := opening ++ "\x7b x ".toList ++ closing
    tags text = [⟨0, 8, [], "\x7b x".toList⟩] ∧
      scan text = [⟨⟨text, "\x7b x".toList, .simple⟩, 0⟩] ∧
      IsLastOpening text 1 6 ∧ ¬ IsLastOpening text 0 6 := by
  intro text
  have noOpening : ¬ opening <:+: "\x7b x ".toList := by decide
  obtain ⟨first, second⟩ := isLastOpening_iff [] noOpening []
  exact ⟨by decide +kernel, by decide +kernel, second.mpr rfl, fun last => first.mp last rfl⟩

/-! ## Texts without three braces in a row -/

theorem NoTripleBrace.head?_ne {front inner rest : Text}
    (calm : NoTripleBrace (front ++ opening ++ inner ++ rest)) : inner.head? ≠ some '{' := by
  intro brace
  obtain ⟨more, rfl⟩ := List.head?_eq_some_iff.mp brace
  exact calm ⟨front, more ++ rest, by simp [opening]⟩

/-- **Without three braces in a row** every tag is innermost. -/
theorem isLastOpening_of_noTripleBrace {text : Text} (calm : NoTripleBrace text) {tag : Tag}
    (mem : tag ∈ tags text) : IsLastOpening text tag.start (tag.stop - 2) := by
  obtain ⟨front, inner, extra, rfl, noOpening, start_eq, stop_eq⟩ := exists_content_of_mem mem
  have close : tag.stop - 2 = front.length + 2 + inner.length := by omega
  rw [List.append_assoc _ closing] at calm
  rw [close, start_eq, Nat.zero_add]
  exact (isLastOpening_iff front noOpening extra).1.mpr calm.head?_ne

end Stencil.Markup
