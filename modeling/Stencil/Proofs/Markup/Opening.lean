import Stencil.Proofs.Markup.Closing
import Stencil.Proofs.Markup.Innermost

/-!
# Tags and the spans that they open

The tags of a text and its spans are found by two walks. One goes from tag to tag. The other jumps
over blocks, and steps back into the tag of a block without an end. They meet again behind each
span: a block ends with a closing marker, so every opening marker in it has a closing one behind it
there, and the tag of that marker ends within the block. A tag without an end of its block holds no
opening marker, so there is nothing to be found by stepping back into it.

## Main definitions

* `Closed text`: every opening marker in the text has a closing one behind it
* `Tag.Opens tag start span`: the tag opens the span that starts at a position
* `Tag.Role position text tag`: the tag opens a span, lies within a block, or opens a block without
  an end

## Main results

* `tagsFrom_append_of_closed`: the walk from tag to tag stops at the end of a closed text
* `Visits.exists_opens`: each visited span is opened by a tag
* `role_of_mem_tagsFrom`: each tag has a role
* `tags_and_spans`: the tags and the spans of every text
-/

namespace Stencil.Markup

/-! ## Closed texts -/

/-- Every opening marker in the text has a closing one behind it. -/
def Closed (text : Text) : Prop :=
  ∀ front rest, text = front ++ opening ++ rest → closing <:+: rest

section Closed

variable {s t text keyword body : Text}

theorem Closed.of_append (h : Closed (s ++ t)) : Closed t := by
  rintro front rest rfl
  exact h (s ++ front) rest (by simp)

/-- What ends with a closing marker is closed. -/
theorem closed_append_closing (s : Text) : Closed (s ++ closing) := by
  intro front rest same
  rcases List.append_eq_append_iff.mp same with ⟨m, seam, whole⟩ | ⟨m, -, rfl⟩
  · -- no opening marker reaches into the closing one, so it ends in front of it
    rcases m.eq_nil_or_concat with rfl | ⟨m, c, rfl⟩
    · exact ⟨[], [], by simp [whole]⟩
    · have brace : c = '{' := by
        have := congrArg List.getLast? seam
        simpa [opening, eq_comm] using this
      have mem : c ∈ closing := by simp [whole]
      subst brace
      exact absurd mem (by decide)
  · exact (List.suffix_append m closing).isInfix

/-- A block is closed. -/
theorem IsBlockBody.closed (h : IsBlockBody keyword body) : Closed body := by
  obtain ⟨before, word, between, rfl, -⟩ := h
  exact closed_append_closing _

/-- A closed text without a tag has no opening marker. -/
theorem Closed.not_opening_infix (closed : Closed s) (none : nextTag? s = none) :
    ¬ opening <:+: s := by
  rintro ⟨front, rest, rfl⟩
  obtain ⟨inside, extra, same⟩ := closed front rest rfl
  refine nextTag?_eq_none_iff.mp none ⟨front, inside, extra, ?_⟩
  simp [← same]

end Closed

/-! ## The walk from tag to tag -/

section Walk

variable {s : Text}

/-- Text without opening markers is passed over. -/
theorem tagsFrom_append_of_quiet (quiet : ¬ opening <:+: s) (last : s.getLast? ≠ some '{')
    (position : Nat) (t : Text) :
    tagsFrom position (s ++ t) = tagsFrom (position + s.length) t := by
  have search := nextTag?_append_left quiet last t
  cases found : nextTag? t with
  | none =>
    rw [found] at search
    rw [tagsFrom_of_none found, tagsFrom_of_none search]
  | some tag =>
    rw [found] at search
    rw [tagsFrom_of_some found, tagsFrom_of_some search]
    simp only [List.length_append, Nat.add_assoc]
    rfl

/-- **The walk from tag to tag stops at the end of a closed text**: no tag reaches over it. -/
theorem tagsFrom_append_of_closed (closed : Closed s) (last : s.getLast? ≠ some '{')
    (position : Nat) (t : Text) :
    tagsFrom position (s ++ t) =
      tagsFrom position s ++ tagsFrom (position + s.length) t := by
  fun_induction tagsFrom position s with
  | case1 position s none =>
    exact tagsFrom_append_of_quiet (closed.not_opening_infix none) last position t
  | case2 position s tag found start stop ih =>
    -- what is left behind the first tag is closed too, and ends as the whole does
    have length : stop + tag.after.length = position + s.length :=
      NextTag.length_eq found position
    rw [NextTag.eq_text found] at closed
    rw [tagsFrom_of_some (nextTag?_append found t), ← length, List.cons_append,
      ← ih closed.of_append (NextTag.getLast?_after_ne found last)]
    rfl

end Walk

/-! ## Spans, and the text around them -/

namespace Visits

variable {text rest before left right : Text} {span first : Span}

/-- The first span of a layout is visited, and else one behind it. -/
theorem cases_pushSpan (same : layout text = (layout rest).pushSpan before first)
    (h : Visits text left span right) :
    (left = before ∧ span = first) ∨
      ∃ left', left = before ++ first.raw ++ left' ∧ Visits rest left' span right := by
  obtain ⟨front, gap, back, tail, parts, rfl, rfl⟩ := h
  rw [same, Layout.pushSpan, Layout.mk.injEq] at parts
  obtain ⟨spans, rfl⟩ := parts
  cases front with
  | nil =>
    obtain ⟨⟨rfl, rfl⟩, -⟩ := by simpa using spans
    exact .inl ⟨by simp [Layout.text], rfl⟩
  | cons head front =>
    obtain ⟨rfl, behind⟩ := List.cons.inj spans
    exact .inr ⟨_, by simp [Layout.text], front, gap, back, _,
      congrArg (Layout.mk · (layout rest).tail) behind, rfl, rfl⟩

/-- Plain text in front of a layout is in front of all its spans. -/
theorem cases_pushText (same : layout text = (layout rest).pushText before)
    (h : Visits text left span right) :
    ∃ left', left = before ++ left' ∧ Visits rest left' span right := by
  obtain ⟨front, gap, back, tail, parts, rfl, rfl⟩ := h
  rw [same] at parts
  rcases split : layout rest with ⟨_ | ⟨⟨lead, head⟩, others⟩, last⟩
  · rw [split, Layout.pushText] at parts
    simp at parts
  · rw [split, Layout.pushText, Layout.mk.injEq] at parts
    obtain ⟨spans, rfl⟩ := parts
    cases front with
    | nil =>
      obtain ⟨⟨rfl, rfl⟩, rfl⟩ := by simpa using spans
      exact ⟨lead, by simp [Layout.text], [], lead, _, _, split, by simp [Layout.text], rfl⟩
    | cons found front =>
      obtain ⟨rfl, rfl⟩ := List.cons.inj spans
      exact ⟨_, by simp [Layout.text], (lead, head) :: front, gap, back, _, split, rfl, rfl⟩

end Visits

/-! ## The tag that opens a span -/

/-- The tag opens the span that starts at a position: it ends with the closing marker of the first
tag of the span, and has the keyword and the rest of the directive of the span. -/
structure Tag.Opens (tag : Tag) (start : Nat) (span : Span) : Prop where
  start_eq : tag.start = start
  stop_eq : ∃ inner body, span.Delimits inner body ∧
    tag.stop = start + (opening ++ inner ++ closing).length
  keyword_eq : tag.keyword = Text.lower (splitKeyword span.directive).1
  rest_eq : tag.rest = Text.trim (splitKeyword span.directive).2

/-- The content of a span makes the tag that opens it. -/
theorem Span.Delimits.opens {span : Span} {inner body : Text} (h : span.Delimits inner body)
    (start : Nat) :
    (Tag.ofInner start (start + (opening ++ inner ++ closing).length) inner).Opens start span where
  start_eq := rfl
  stop_eq := ⟨inner, body, h, rfl⟩
  keyword_eq := by
    rw [h.directive_eq]
    rfl
  rest_eq := by
    rw [h.directive_eq]
    rfl

section Steps

variable {text keyword body after : Text} {next : NextTag}

/-- The first tag of a text, and those behind it. -/
theorem tagsFrom_of_nextTag? (found : nextTag? text = some next) (position : Nat) :
    tagsFrom position text =
      Tag.ofInner (position + next.before.length)
        (position + next.before.length + (opening ++ next.inner ++ closing).length) next.inner ::
      tagsFrom (position + (next.before ++ next.raw).length) next.after := by
  have stop : position + (next.before ++ next.raw).length =
      position + next.before.length + next.raw.length := by
    rw [List.length_append, Nat.add_assoc]
  rw [tagsFrom_of_some found, stop]
  rfl

/-- Behind the first tag, the walk comes to the end of the block that this tag opens. -/
theorem tagsFrom_after_block
    (block : (Kind.classify (normalize next.inner)).closingKeyword? = some keyword)
    (ending : blockEnd? keyword next.after = some (body, after)) (position : Nat) :
    tagsFrom (position + (next.before ++ next.raw).length) next.after =
      tagsFrom (position + (next.before ++ next.raw).length) body ++
        tagsFrom (position + (next.before ++ (next.raw ++ body)).length) after := by
  obtain ⟨same, isBody⟩ := (blockEnd?_eq_some_iff (Kind.closingKeyword?_ne_nil block)).mp ending
  have last : body.getLast? ≠ some '{' := by
    rw [isBody.getLast?]
    decide
  rw [same, tagsFrom_append_of_closed isBody.closed last]
  simp only [List.length_append, Nat.add_assoc]

/-- Stepping back into a tag finds nothing in it. -/
theorem tagsFrom_inner (found : nextTag? text = some next) (position : Nat) :
    tagsFrom (position + (next.before ++ opening).length) (next.inner ++ closing ++ next.after) =
      tagsFrom (position + (next.before ++ next.raw).length) next.after := by
  have quiet : ¬ opening <:+: next.inner ++ closing := by
    rw [opening, closing, Text.pair_infix_append_iff]
    rintro (inside | seam | ⟨-, seam⟩)
    · exact (NextTag.inner_quiet found).1 inside
    · exact absurd seam (by decide)
    · exact absurd seam (by decide)
  rw [tagsFrom_append_of_quiet quiet (by simp [closing])]
  simp only [NextTag.raw, List.length_append, Nat.add_assoc]

end Steps

/-- **Each visited span is opened by a tag.** -/
theorem Visits.exists_opens {text right : Text} {span : Span} :
    ∀ (left : Text) (position : Nat), Visits text left span right →
      ∃ tag ∈ tagsFrom position text, tag.Opens (position + left.length) span := by
  fun_induction layout text with
  | case1 text none =>
    intro left position h
    have mem := h.mem
    rw [layout_of_none none] at mem
    cases mem
  | case2 text next found directive kind single ih =>
    intro left position h
    rw [tagsFrom_of_nextTag? found]
    rcases h.cases_pushSpan (layout_of_single found single) with ⟨rfl, rfl⟩ | ⟨left, rfl, later⟩
    · exact ⟨_, List.mem_cons_self .., (delimits_of_single found single).opens _⟩
    · obtain ⟨tag, mem, opens⟩ := ih left (position + (next.before ++ next.raw).length) later
      rw [Nat.add_assoc, ← List.length_append] at opens
      exact ⟨tag, List.mem_cons_of_mem _ mem, opens⟩
  | case3 text next found directive kind keyword block body after ending ih =>
    intro left position h
    rw [tagsFrom_of_nextTag? found, tagsFrom_after_block block ending]
    rcases h.cases_pushSpan (layout_of_block found block ending) with
      ⟨rfl, rfl⟩ | ⟨left, rfl, later⟩
    · exact ⟨_, List.mem_cons_self .., (delimits_of_block found block ending).opens _⟩
    · obtain ⟨tag, mem, opens⟩ :=
        ih left (position + (next.before ++ (next.raw ++ body)).length) later
      rw [Nat.add_assoc, ← List.length_append] at opens
      exact ⟨tag, List.mem_cons_of_mem _ (List.mem_append_right _ mem), opens⟩
  | case4 text next found directive kind keyword block ending ih =>
    intro left position h
    rw [tagsFrom_of_nextTag? found, ← tagsFrom_inner found]
    obtain ⟨left, rfl, later⟩ := h.cases_pushText (layout_of_unclosed found block ending)
    obtain ⟨tag, mem, opens⟩ := ih left (position + (next.before ++ opening).length) later
    rw [Nat.add_assoc, ← List.length_append] at opens
    exact ⟨tag, List.mem_cons_of_mem _ mem, opens⟩

/-! ## The roles of tags -/

/-- A block is a conditional one or a loop. -/
theorem Kind.eq_of_closingKeyword? {kind : Kind} {keyword : Text}
    (block : kind.closingKeyword? = some keyword) : kind = .conditional ∨ kind = .loop := by
  cases kind <;> cases block
  · exact .inl rfl
  · exact .inr rfl

/-- What a tag is among the spans of a text that starts at a position. -/
inductive Tag.Role (position : Nat) (text : Text) (tag : Tag) : Prop
  /-- The tag opens a visited span. -/
  | opens {left right : Text} {span : Span} (visited : Visits text left span right)
      (opens : tag.Opens (position + left.length) span)
  /-- The tag lies within a visited block, behind its first tag. -/
  | within {left right : Text} {span : Span} (visited : Visits text left span right)
      (block : span.kind = .conditional ∨ span.kind = .loop)
      (behind : position + left.length < tag.start)
      (before : tag.stop ≤ position + left.length + span.raw.length)
  /-- The tag opens a block, and no end is found for it. -/
  | unclosed {front inner extra keyword : Text}
      (written : text = front ++ opening ++ inner ++ closing ++ extra)
      (tag_eq : tag = Tag.ofInner (position + front.length)
        (position + front.length + (opening ++ inner ++ closing).length) inner)
      (block : (Kind.classify (normalize inner)).closingKeyword? = some keyword)
      (ending : blockEnd? keyword extra = none)

namespace Tag.Role

variable {text rest before : Text} {first : Span} {tag : Tag} {position : Nat}

/-- The role of a tag behind the first span. -/
theorem of_pushSpan (same : layout text = (layout rest).pushSpan before first)
    (role : Role (position + (before ++ first.raw).length) rest tag) : Role position text tag := by
  have whole : text = before ++ first.raw ++ rest := by
    rw [← text_layout text, same, Layout.text_pushSpan, text_layout]
  cases role with
  | opens visited opens =>
    rw [Nat.add_assoc, ← List.length_append] at opens
    exact .opens (visited.of_pushSpan same) opens
  | within visited block behind before =>
    rw [Nat.add_assoc position, ← List.length_append] at behind before
    exact .within (visited.of_pushSpan same) block behind before
  | unclosed written tag_eq block ending =>
    rw [Nat.add_assoc position, ← List.length_append] at tag_eq
    exact .unclosed (by rw [whole, written]; simp) tag_eq block ending

/-- The role of a tag behind plain text. -/
theorem of_pushText (same : layout text = (layout rest).pushText before)
    (role : Role (position + before.length) rest tag) : Role position text tag := by
  have whole : text = before ++ rest := by
    rw [← text_layout text, same, Layout.text_pushText, text_layout]
  cases role with
  | opens visited opens =>
    rw [Nat.add_assoc, ← List.length_append] at opens
    exact .opens (visited.of_pushText same) opens
  | within visited block behind before =>
    rw [Nat.add_assoc position, ← List.length_append] at behind before
    exact .within (visited.of_pushText same) block behind before
  | unclosed written tag_eq block ending =>
    rw [Nat.add_assoc position, ← List.length_append] at tag_eq
    exact .unclosed (by rw [whole, written]; simp) tag_eq block ending

end Tag.Role

/-- **Each tag has a role** among the spans. -/
theorem role_of_mem_tagsFrom (text : Text) :
    ∀ position, ∀ tag ∈ tagsFrom position text, tag.Role position text := by
  fun_induction layout text with
  | case1 text none =>
    intro position tag mem
    rw [tagsFrom_of_none none] at mem
    cases mem
  | case2 text next found directive kind single ih =>
    intro position tag mem
    have same := layout_of_single found single
    rw [tagsFrom_of_nextTag? found] at mem
    rcases List.mem_cons.mp mem with rfl | mem
    · exact .opens (.of_first same) ((delimits_of_single found single).opens _)
    · exact (ih _ tag mem).of_pushSpan same
  | case3 text next found directive kind keyword block body after ending ih =>
    intro position tag mem
    have same := layout_of_block found block ending
    rw [tagsFrom_of_nextTag? found, tagsFrom_after_block block ending] at mem
    rcases List.mem_cons.mp mem with rfl | mem
    · exact .opens (.of_first same) ((delimits_of_block found block ending).opens _)
    rcases List.mem_append.mp mem with inside | mem
    · obtain ⟨front, inner, extra, whole, -, start_eq, stop_eq⟩ := exists_content_of_mem inside
      have length := congrArg List.length whole
      simp only [NextTag.raw, opening, closing, List.length_append, List.length_cons,
        List.length_nil] at start_eq stop_eq length
      refine .within (.of_first same) ?_ ?_ ?_
      · rw [(delimits_of_block found block ending).kind_eq]
        exact Kind.eq_of_closingKeyword? block
      · omega
      · simp only [NextTag.raw, opening, closing, List.length_append, List.length_cons,
          List.length_nil]
        omega
    · exact (ih _ tag mem).of_pushSpan same
  | case4 text next found directive kind keyword block ending ih =>
    -- without an end the tag is plain text, and the layout goes on inside it
    intro position tag mem
    rw [tagsFrom_of_nextTag? found, ← tagsFrom_inner found] at mem
    rcases List.mem_cons.mp mem with rfl | mem
    · have written : text = next.before ++ opening ++ next.inner ++ closing ++ next.after := by
        rw [NextTag.eq_text found]
        simp [NextTag.raw]
      exact .unclosed written rfl block ending
    · exact (ih _ tag mem).of_pushText (layout_of_unclosed found block ending)

/-! ## Both walks -/

/-- A tag stands in its text between its positions, and takes up whole characters of it. -/
structure Tag.Stands (tag : Tag) (text front inner extra : Text) : Prop where
  text_eq : text = front ++ (opening ++ inner ++ closing) ++ extra
  start_eq : tag.start = front.length
  stop_eq : tag.stop = tag.start + (opening ++ inner ++ closing).length
  bytes : Text.atBytes? (Text.byteLength front)
    (Text.byteLength (opening ++ inner ++ closing)) text = some (opening ++ inner ++ closing)

/-- Every tag stands in its text. -/
theorem exists_stands_of_mem {text : Text} {tag : Tag} (mem : tag ∈ tags text) :
    ∃ front inner extra, tag.Stands text front inner extra := by
  obtain ⟨front, inner, extra, same, -, start_eq, stop_eq⟩ := exists_content_of_mem mem
  have text_eq : text = front ++ (opening ++ inner ++ closing) ++ extra := by simp [same]
  refine ⟨front, inner, extra, text_eq, start_eq.trans (Nat.zero_add _), ?_, ?_⟩
  · rw [stop_eq]
    simp only [opening, closing, List.length_append, List.length_cons, List.length_nil]
    omega
  · exact Text.atBytes?_eq_some_iff.mpr ⟨front, extra, text_eq, rfl, rfl⟩

/-- **The tags and the spans of every text.** Each visited span is opened by one of the tags, and
the placeholders are visited spans at their offsets. Each tag opens a visited span, lies within a
visited block, or opens a block without an end. The tags are in order, do not overlap, and take up
whole characters of the text. -/
theorem tags_and_spans (text : Text) :
    (∀ left span right, Visits text left span right →
      ∃ tag ∈ tags text, tag.Opens left.length span) ∧
    (∀ p ∈ scan text, ∃ left right, Visits text left p.toSpan right ∧
      p.offset = Text.byteLength left) ∧
    (∀ tag ∈ tags text, tag.Role 0 text) ∧
    (tags text).Pairwise (fun one other => one.stop ≤ other.start) ∧
    ∀ tag ∈ tags text, ∃ front inner extra, tag.Stands text front inner extra := by
  refine ⟨?_, fun p => exists_visits_of_mem_scan, role_of_mem_tagsFrom text 0,
    (pairwise_tagsFrom 0 text).1, fun tag => exists_stands_of_mem⟩
  intro left span right visited
  obtain ⟨tag, mem, opens⟩ := Visits.exists_opens left 0 visited
  rw [Nat.zero_add] at opens
  exact ⟨tag, mem, opens⟩

/-- Behind the tag of a loop without an end, a block with a tag in it. -/
theorem tags_and_spans_of_nested_tag :
    let start : Text := "{{ for x }}é"
    let block : Text := "{{ if a }}{{ b }}{{ endif }}"
    let text : Text := start ++ block
    let inside : Tag := ⟨22, 29, ['b'], []⟩
    Visits text start ⟨block, "if a", .conditional⟩ [] ∧
      (∃ tag ∈ tags text, tag.Opens 12 ⟨block, "if a", .conditional⟩) ∧
      inside ∈ tags text ∧ inside.Role 0 text ∧
      ∃ front inner extra, inside.Stands text front inner extra := by
  intro start block text inside
  have visited : Visits text start ⟨block, "if a", .conditional⟩ [] :=
    ⟨[], start, [], [], by decide +kernel, rfl, rfl⟩
  have mem : inside ∈ tags text := by decide +kernel
  obtain ⟨opened, -, roles, -, stands⟩ := tags_and_spans text
  exact ⟨visited, opened start _ [] visited, mem, roles inside mem, stands inside mem⟩

end Stencil.Markup
