import Stencil.Proofs.Markup.Section
import Stencil.Render.Renderer

/-!
# Loops as they are written

A loop names an element and a list, and consists of the text that is repeated and an optional
text for the case that there is nothing to repeat it for. What these texts can hold is limited to
what leaves the loop's own tags alone: then the whole loop is one span wherever it is read, and
its parts are found where they were written.

## Main definitions

* `ForBlock`: the head of a loop and its texts
* `ForBlock.text`, `ForBlock.span`: the loop in a template, and what it is read as

## Main results

* `ForBlock.loopHead?_directive`, `ForBlock.loopParts?_text`: the head and the texts are read back
* `ForBlock.layout_text_append`, `ForBlock.scan_text`: a loop is one span
-/

namespace Stencil

open Markup (Section Placeholder Span Quiet clause layout normalize scan tags)

/-- What a loop can hold: neither a tag nor the closing keyword of a loop stands in the text, and
it leaves the next tag alone. -/
structure ForBlock.IsPart (text : Text) : Prop where
  quiet : Quiet "endfor" text
  noTags : ∀ tag ∈ tags text, Fill.isLoopTag tag = false
  last : text.getLast? ≠ some '{'

instance (text : Text) : Decidable (ForBlock.IsPart text) :=
  decidable_of_iff (Quiet "endfor" text ∧ (∀ tag ∈ tags text, Fill.isLoopTag tag = false) ∧
      text.getLast? ≠ some '{')
    ⟨fun h => ⟨h.1, h.2.1, h.2.2⟩, fun h => ⟨h.quiet, h.noTags, h.last⟩⟩

/-- A loop. The name of its element does not hide what the loop tells about its rounds. -/
structure ForBlock where
  /-- The name of the element. -/
  item : Text
  /-- The name or path of the list. -/
  list : Text
  /-- The text that is repeated. -/
  body : Text
  /-- The text behind `elsefor`, if there is one. -/
  otherwise : Option Text
  isIdentifier_item : Path.isIdentifier item = true
  item_ne : item ≠ "loop".toList
  isPath_list : (Path.isIdentifier list || Path.isDotted list) = true
  isPart_body : ForBlock.IsPart body
  isPart_otherwise : ∀ text ∈ otherwise, ForBlock.IsPart text

namespace ForBlock

/-! ## The head of a loop -/

section Head

variable (block : ForBlock)

/-- The content of the first tag behind its keyword. -/
def head : Text := block.item ++ ' ' :: ("in".toList ++ ' ' :: block.list)

/-- The directive of the loop: that of its first tag. -/
def directive : Text := "for".toList ++ ' ' :: block.head

theorem isWord_item : Path.IsWord block.item := Path.isWord_of_isIdentifier block.isIdentifier_item

theorem isWord_list : Path.IsWord block.list := by
  have shape := block.isPath_list
  rw [Bool.or_eq_true] at shape
  exact shape.elim Path.isWord_of_isIdentifier Path.isWord_of_isDotted

theorem isAlpha_for : ∀ c ∈ "for".toList, c.isAlpha = true := List.all_eq_true.mp rfl

theorem isAlpha_in : ∀ c ∈ "in".toList, c.isAlpha = true := List.all_eq_true.mp rfl

theorem head_ne_nil : block.head ≠ [] :=
  List.append_ne_nil_of_left_ne_nil block.isWord_item.nonempty _

theorem isTrimmed_head : Text.IsTrimmed block.head where
  first c first := by
    apply block.isWord_item.isTrimmed.first c
    rwa [head, List.head?_append_of_ne_nil _ block.isWord_item.nonempty] at first
  last c last := by
    apply block.isWord_list.isTrimmed.last c
    have parts : block.head = block.item ++ ' ' :: "in".toList ++ [' '] ++ block.list := by
      simp [head]
    rwa [parts, List.getLast?_append_of_ne_nil _ block.isWord_list.nonempty] at last

theorem spaced_head : Markup.spaced block.head = block.head := by
  rw [head, Markup.spaced_append_cons, Markup.spaced_append_cons,
    Markup.spaced_word block.isWord_item, Markup.spaced_of_isAlpha isAlpha_in,
    Markup.spaced_word block.isWord_list]

theorem normalize_clause_head : normalize (clause "for" block.head) = block.directive :=
  Markup.normalize_clause (List.cons_ne_nil _ _) isAlpha_for block.head_ne_nil
    block.isTrimmed_head block.spaced_head

theorem notMem_head {c : Char} (other : Path.isNameCharacter c = false) (noDot : c ≠ '.')
    (noBlank : c ≠ ' ') : c ∉ block.head := by
  have first := block.isWord_item.notMem other noDot
  have last := block.isWord_list.notMem other noDot
  have between : c ∉ "in".toList := by
    intro mem
    have letter : ∀ d ∈ "in".toList, Path.isNameCharacter d = true :=
      List.all_eq_true.mp (by decide +kernel)
    rw [letter c mem] at other
    cases other
  simp only [head, List.mem_append, List.mem_cons]
  tauto

/-- **The head of a loop** is read back as the element and the list. -/
theorem loopHead?_directive : Fill.loopHead? block.directive = some (block.item, block.list) := by
  have words : Text.words (' ' :: block.head) = [block.item, "in".toList, block.list] := by
    have seams : ' ' :: block.head = [] ++ ' ' :: block.head := rfl
    have letters : Text.words "in".toList = ["in".toList] := by decide
    rw [seams, head, Text.words_append_cons rfl, Text.words_append_cons rfl,
      Text.words_append_cons rfl, block.isWord_item.words_eq, letters, block.isWord_list.words_eq]
    rfl
  have keyword : Text.sameIgnoringCase "in".toList "in".toList = true := by decide
  rw [Fill.loopHead?, directive, Markup.splitKeyword_append_cons isAlpha_for]
  simp only [words, keyword, block.isIdentifier_item, block.isPath_list, Bool.and_true, if_true]

end Head

/-! ## The sections of a loop -/

/-- The section behind `elsefor`, if there is one. -/
def elseSection (otherwise : Option Text) : List Section :=
  (otherwise.map fun text => ⟨" elsefor ".toList, text⟩).toList

variable (block : ForBlock)

/-- The section of the text that is repeated. -/
def first : Section := ⟨clause "for" block.head, block.body⟩

/-- The sections of the loop. -/
def sections : List Section :=
  block.first :: elseSection block.otherwise ++ [Section.ending "endfor"]

/-- The loop as it is written in a template. -/
def text : Text := Section.textOf block.sections

/-- What the loop is read as. -/
def span : Span := ⟨block.text, block.directive, .loop⟩

/-- The placeholder of the loop alone. -/
def placeholder : Placeholder := ⟨block.span, 0⟩

variable {block} {s : Section}

theorem mem_elseSection {otherwise : Option Text} (mem : s ∈ elseSection otherwise) :
    ∃ text ∈ otherwise, s = ⟨" elsefor ".toList, text⟩ := by
  cases otherwise with
  | none => cases mem
  | some text => exact ⟨text, rfl, List.mem_singleton.mp mem⟩

/-- A section of a loop is the text that is repeated, the text behind `elsefor`, or the end. -/
theorem mem_sections (mem : s ∈ block.sections) :
    s = block.first ∨ (∃ text ∈ block.otherwise, s = ⟨" elsefor ".toList, text⟩) ∨
      s = Section.ending "endfor" := by
  rcases List.mem_append.mp mem with mem | mem
  · exact (List.mem_cons.mp mem).imp_right fun mem => .inl (mem_elseSection mem)
  · exact .inr (.inr (List.mem_singleton.mp mem))

variable (block) in
theorem isPlain_first : block.first.IsPlain := by
  refine ⟨?_, ?_, block.isPart_body.last⟩
  · have absent := block.notMem_head (c := '{') (by decide +kernel) (by decide) (by decide)
    simpa [first, clause] using absent
  · have absent := block.notMem_head (c := '}') (by decide +kernel) (by decide) (by decide)
    simpa [first, clause] using absent

theorem isPlain_of_mem (mem : s ∈ block.sections) : s.IsPlain := by
  rcases mem_sections mem with rfl | ⟨text, htext, rfl⟩ | rfl
  · exact block.isPlain_first
  · have noOpening : '{' ∉ " elsefor ".toList := by decide
    have noClosing : '}' ∉ " elsefor ".toList := by decide
    exact ⟨noOpening, noClosing, (block.isPart_otherwise text htext).last⟩
  · exact ⟨by decide, by decide, by decide⟩

theorem keyword_first : block.first.keyword = "for".toList := by
  rw [Section.keyword, first, normalize_clause_head, directive,
    Markup.splitKeyword_append_cons isAlpha_for]
  rfl

theorem keyword_elsefor (text : Text) :
    Section.keyword ⟨" elsefor ".toList, text⟩ = "elsefor".toList := by
  have closed : Text.lower (Markup.splitKeyword (normalize " elsefor ".toList)).1 =
      "elsefor".toList := by decide +kernel
  exact closed

theorem isLoopTag_of_mem (mem : s ∈ block.sections) (position : Nat) :
    Fill.isLoopTag (s.mark position) = true := by
  have closed : (Section.ending "endfor".toList).keyword = "endfor".toList := by decide +kernel
  unfold Fill.isLoopTag
  rw [Section.keyword_mark]
  rcases mem_sections mem with rfl | ⟨text, -, rfl⟩ | rfl
  · rw [keyword_first]
    decide
  · rw [keyword_elsefor]
    decide
  · rw [closed]
    decide

theorem isLoopTag_body_of_mem (mem : s ∈ block.sections) (position : Nat) :
    ∀ tag ∈ Markup.tagsFrom position s.body, Fill.isLoopTag tag = false := by
  intro tag found
  rw [Markup.tagsFrom_eq_map_shift] at found
  obtain ⟨tag, found', rfl⟩ := List.mem_map.mp found
  change Fill.isLoopTag tag = false
  rcases mem_sections mem with rfl | ⟨text, htext, rfl⟩ | rfl
  · exact block.isPart_body.noTags tag found'
  · exact (block.isPart_otherwise text htext).noTags tag found'
  · simp [Section.ending, tags] at found'

variable (block)

/-- The tags that start or end a part are those of the loop's own sections. -/
theorem filter_tags : (tags block.text).filter Fill.isLoopTag = Section.marks 0 block.sections :=
  Section.filter_tagsFrom (fun _ => isPlain_of_mem) (fun _ => isLoopTag_of_mem)
    (fun _ => isLoopTag_body_of_mem) 0

/-- **The texts of a loop** are read back. -/
theorem loopParts?_text : Fill.loopParts? block.text = some (block.body, block.otherwise) := by
  unfold Fill.loopParts?
  rw [filter_tags]
  -- a text stands between its own tag and the next one, and `elsefor` tells the second text
  cases last : block.otherwise with
  | none =>
    have parts : block.sections = [block.first, Section.ending "endfor"] := by
      rw [sections, last]
      rfl
    have same : block.text = [] ++ Section.textOf [block.first, Section.ending "endfor"] := by
      rw [text, parts, List.nil_append]
    have body := Section.slice_body same
    rw [parts]
    exact congrArg (fun body => some (body, none)) body
  | some otherwise =>
    let second : Section := ⟨" elsefor ".toList, otherwise⟩
    have parts : block.sections = [block.first, second, Section.ending "endfor"] := by
      rw [sections, last]
      rfl
    have same : block.text =
        [] ++ Section.textOf [block.first, second, Section.ending "endfor"] := by
      rw [text, parts, List.nil_append]
    have same' : block.text =
        block.first.text ++ Section.textOf [second, Section.ending "endfor"] := by
      rw [text, parts, Section.textOf_cons]
    have body := Section.slice_body same
    have behind := Section.slice_body same'
    have word (position : Nat) : (second.mark position).keyword = "elsefor".toList :=
      keyword_elsefor otherwise
    rw [parts]
    simp only [Section.marks, List.length_nil, Nat.zero_add] at body behind ⊢
    rw [word, if_pos rfl, body, behind]
    rfl

/-! ## The span of a loop -/

theorem classify_directive : Markup.Kind.classify (normalize block.first.inner) = .loop := by
  have filled : normalize block.head ≠ [] := by
    rw [Markup.normalize_of_isTrimmed block.isTrimmed_head block.spaced_head]
    exact block.head_ne_nil
  have classified := Markup.Kind.classify_clause (List.cons_ne_nil _ _) isAlpha_for filled
  exact classified

theorem quiet_of_mem (mem : s ∈ elseSection block.otherwise) :
    Quiet "endfor" s.inner ∧ Quiet "endfor" s.body := by
  obtain ⟨text, htext, rfl⟩ := mem_elseSection mem
  have keyword : Quiet "endfor" " elsefor ".toList := by decide
  exact ⟨keyword, (block.isPart_otherwise text htext).quiet⟩

/-- A loop is delimited by its own text. -/
theorem delimits_span : ∃ body, block.span.Delimits block.first.inner body := by
  have delimits := Section.delimits_block block.isPlain_first block.classify_directive rfl
    block.isPart_body.quiet fun s mem => block.quiet_of_mem mem
  have directive : normalize block.first.inner = block.directive := block.normalize_clause_head
  rw [directive] at delimits
  exact ⟨_, delimits⟩

/-- **A loop is one span** in front of every text. -/
theorem layout_text_append (behind : Text) :
    layout (block.text ++ behind) = (layout behind).pushSpan [] block.span := by
  obtain ⟨body, delimits⟩ := block.delimits_span
  exact delimits.layout_append behind

/-- **A loop is one placeholder.** -/
theorem scan_text : scan block.text = [block.placeholder] := by
  obtain ⟨body, delimits⟩ := block.delimits_span
  exact delimits.scan_raw

end ForBlock

end Stencil
