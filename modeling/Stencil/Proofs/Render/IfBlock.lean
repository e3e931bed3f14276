import Stencil.Proofs.Markup.Section
import Stencil.Render.Renderer

/-!
# Conditional blocks as they are written

A conditional block consists of branches, each a condition with the text that it guards, and an
optional text for the case that all conditions are false. What a branch can hold is limited to
what leaves the block's own tags alone: then the whole block is one placeholder, and its own tags
are exactly those that start or end a branch.

## Main definitions

* `Branch`: a condition and the text behind it
* `IfBlock`: the branches of a block, and the text behind `else`
* `IfBlock.text`, `IfBlock.placeholder`: the block in a template, and what it is scanned as

## Main results

* `IfBlock.scan_text`: a conditional block is one placeholder
* `IfBlock.filter_tags`: its branches are split at its own tags
-/

namespace Stencil

open Markup (Section Placeholder Quiet clause normalize scan tags)

/-! ## Branches -/

/-- A condition with the text that it guards. -/
structure Branch where
  /-- The condition, as it is written. -/
  condition : Text
  /-- The text behind it. -/
  body : Text

namespace Branch

/-- What a tag can hold as a condition. -/
structure IsCondition (condition : Text) : Prop where
  filled : normalize condition ≠ []
  noOpening : '{' ∉ condition
  noClosing : '}' ∉ condition

instance (condition : Text) : Decidable (IsCondition condition) :=
  decidable_of_iff (normalize condition ≠ [] ∧ '{' ∉ condition ∧ '}' ∉ condition)
    ⟨fun h => ⟨h.1, h.2.1, h.2.2⟩, fun h => ⟨h.filled, h.noOpening, h.noClosing⟩⟩

/-- The branch behind a keyword. -/
def toSection (keyword : Text) (b : Branch) : Section := ⟨clause keyword b.condition, b.body⟩

/-- Branches one after the other; all but the first stand behind `elseif`. -/
def sections : (keyword : Text) → List Branch → List Section
  | _, [] => []
  | keyword, b :: rest => b.toSection keyword :: sections "elseif" rest

end Branch

/-- The keyword of a tag with a condition. -/
def IsBranchKeyword (keyword : Text) : Prop := keyword = "if" ∨ keyword = "elseif"

namespace IsBranchKeyword

variable {keyword : Text} (h : IsBranchKeyword keyword)
include h

theorem ne_nil : keyword ≠ [] := by
  rcases h with rfl | rfl <;> decide

theorem isAlpha : ∀ c ∈ keyword, c.isAlpha = true := by
  rw [← List.all_eq_true]
  rcases h with rfl | rfl <;> decide

theorem lower_eq : Text.lower keyword = keyword := by
  rcases h with rfl | rfl <;> decide

/-- The tag of a branch holds its keyword and its normalized condition. -/
theorem mark_eq {b : Branch} (condition : Branch.IsCondition b.condition) (position : Nat) :
    (b.toSection keyword).mark position =
      ⟨position, position + (clause keyword b.condition).length + 4, keyword,
        normalize b.condition⟩ := by
  have tag := Markup.Tag.ofInner_clause h.ne_nil h.isAlpha condition.filled position
    (position + (clause keyword b.condition).length + 4)
  rw [h.lower_eq] at tag
  exact tag

end IsBranchKeyword

/-! ## Whole blocks -/

/-- What a branch can hold: neither a tag nor the closing keyword of a conditional block stands in
the text, and it leaves the next tag alone. -/
structure Branch.IsBody (body : Text) : Prop where
  quiet : Quiet "endif" body
  noTags : ∀ tag ∈ tags body, Fill.isBranchTag tag = false
  last : body.getLast? ≠ some '{'

instance (body : Text) : Decidable (Branch.IsBody body) :=
  decidable_of_iff (Quiet "endif" body ∧ (∀ tag ∈ tags body, Fill.isBranchTag tag = false) ∧
      body.getLast? ≠ some '{')
    ⟨fun h => ⟨h.1, h.2.1, h.2.2⟩, fun h => ⟨h.quiet, h.noTags, h.last⟩⟩

/-- A conditional block. Only the first condition may hold the closing keyword. -/
structure IfBlock where
  /-- The conditions in their order, each with the text behind it. -/
  branches : List Branch
  /-- The text behind `else`, if there is one. -/
  otherwise : Option Text
  nonempty : branches ≠ []
  isCondition : ∀ b ∈ branches, Branch.IsCondition b.condition
  quiet : ∀ b ∈ branches.tail, Quiet "endif" b.condition
  isBody : ∀ b ∈ branches, Branch.IsBody b.body
  isBody_otherwise : ∀ body ∈ otherwise, Branch.IsBody body

namespace IfBlock

/-- The section behind `else`, if there is one. -/
def elseSection (otherwise : Option Text) : List Section :=
  (otherwise.map fun body => ⟨" else ".toList, body⟩).toList

/-- The sections behind the last branch. -/
def endings (otherwise : Option Text) : List Section :=
  elseSection otherwise ++ [Section.ending "endif"]

theorem sections_append_endings_ne_nil (keyword : Text) (bs : List Branch)
    (otherwise : Option Text) : Branch.sections keyword bs ++ endings otherwise ≠ [] := by
  simp [endings]

variable (block : IfBlock)

/-- The sections of the block. -/
def sections : List Section := Branch.sections "if" block.branches ++ endings block.otherwise

/-- The block as it is written in a template. -/
def text : Text := Section.textOf block.sections

/-- The directive of the block: that of its first tag. -/
def directive : Text :=
  normalize (clause "if" (block.branches.head block.nonempty).condition)

/-- The placeholder of the block. -/
def placeholder : Placeholder := ⟨⟨block.text, block.directive, .conditional⟩, 0⟩

/-! ### The sections of a block -/

variable {block} {s : Section}

theorem mem_sections {keyword : Text} (hk : IsBranchKeyword keyword) {bs : List Branch}
    (mem : s ∈ Branch.sections keyword bs) :
    ∃ keyword' b, IsBranchKeyword keyword' ∧ b ∈ bs ∧ s = b.toSection keyword' := by
  induction bs generalizing keyword with
  | nil => cases mem
  | cons b rest ih =>
    rcases List.mem_cons.mp mem with rfl | mem
    · exact ⟨keyword, b, hk, List.mem_cons_self .., rfl⟩
    · obtain ⟨keyword', b', hk', mem', same⟩ := ih (.inr rfl) mem
      exact ⟨keyword', b', hk', List.mem_cons_of_mem _ mem', same⟩

theorem mem_elseSection {otherwise : Option Text} (mem : s ∈ elseSection otherwise) :
    ∃ body ∈ otherwise, s = ⟨" else ".toList, body⟩ := by
  cases otherwise with
  | none => cases mem
  | some body => exact ⟨body, rfl, List.mem_singleton.mp mem⟩

/-- A section of a block is a branch, the text behind `else`, or the end. -/
theorem mem_sections_block (mem : s ∈ block.sections) :
    (∃ keyword b, IsBranchKeyword keyword ∧ b ∈ block.branches ∧ s = b.toSection keyword) ∨
      (∃ body ∈ block.otherwise, s = ⟨" else ".toList, body⟩) ∨ s = Section.ending "endif" := by
  rcases List.mem_append.mp mem with mem | mem
  · exact .inl (mem_sections (.inl rfl) mem)
  · rcases List.mem_append.mp mem with mem | mem
    · exact .inr (.inl (mem_elseSection mem))
    · exact .inr (.inr (List.mem_singleton.mp mem))

theorem isPlain_toSection {keyword : Text} (hk : IsBranchKeyword keyword) {b : Branch}
    (condition : Branch.IsCondition b.condition) (body : Branch.IsBody b.body) :
    (b.toSection keyword).IsPlain := by
  have letters := hk.isAlpha
  refine ⟨?_, ?_, body.last⟩
  · intro mem
    have found : '{' ∈ keyword ∨ '{' ∈ b.condition := by
      simpa [Branch.toSection, clause] using mem
    exact found.elim (fun mem => absurd (letters _ mem) (by decide)) condition.noOpening
  · intro mem
    have found : '}' ∈ keyword ∨ '}' ∈ b.condition := by
      simpa [Branch.toSection, clause] using mem
    exact found.elim (fun mem => absurd (letters _ mem) (by decide)) condition.noClosing

theorem isPlain_of_mem (mem : s ∈ block.sections) : s.IsPlain := by
  rcases mem_sections_block mem with ⟨keyword, b, hk, hb, rfl⟩ | ⟨body, hbody, rfl⟩ | rfl
  · exact isPlain_toSection hk (block.isCondition b hb) (block.isBody b hb)
  · have noOpening : '{' ∉ " else ".toList := by decide
    have noClosing : '}' ∉ " else ".toList := by decide
    exact ⟨noOpening, noClosing, (block.isBody_otherwise body hbody).last⟩
  · exact ⟨by decide, by decide, by decide⟩

theorem keyword_else (body : Text) : Section.keyword ⟨" else ".toList, body⟩ = "else".toList := by
  have closed : Text.lower (Markup.splitKeyword (normalize " else ".toList)).1 = "else".toList := by
    decide +kernel
  exact closed

/-- The leading words of a block's own tags. -/
theorem keyword_of_mem (mem : s ∈ block.sections) :
    s.keyword ∈ ["if".toList, "elseif".toList, "else".toList, "endif".toList] := by
  rcases mem_sections_block mem with ⟨keyword, b, hk, hb, rfl⟩ | ⟨body, hbody, rfl⟩ | rfl
  · rw [← Section.keyword_mark _ 0, hk.mark_eq (block.isCondition b hb)]
    rcases hk with rfl | rfl <;> simp
  · rw [keyword_else]
    simp
  · have closed : (Section.ending "endif".toList).keyword = "endif".toList := by decide +kernel
    rw [closed]
    simp

theorem isBranchTag_of_mem (mem : s ∈ block.sections) (position : Nat) :
    Fill.isBranchTag (s.mark position) = true := by
  have word := keyword_of_mem mem
  simp only [List.mem_cons, List.not_mem_nil, or_false] at word
  rw [Fill.isBranchTag, Section.keyword_mark]
  rcases word with word | word | word | word <;> rw [word] <;> decide

theorem isBranchTag_body_of_mem (mem : s ∈ block.sections) (position : Nat) :
    ∀ tag ∈ Markup.tagsFrom position s.body, Fill.isBranchTag tag = false := by
  intro tag found
  rw [Markup.tagsFrom_eq_map_shift] at found
  obtain ⟨tag, found', rfl⟩ := List.mem_map.mp found
  change Fill.isBranchTag tag = false
  rcases mem_sections_block mem with ⟨keyword, b, hk, hb, rfl⟩ | ⟨body, hbody, rfl⟩ | rfl
  · exact (block.isBody b hb).noTags tag found'
  · exact (block.isBody_otherwise body hbody).noTags tag found'
  · simp [Section.ending, tags] at found'

variable (block)

/-- The tags that start or end a branch are those of the block's own sections. -/
theorem filter_tags : (tags block.text).filter Fill.isBranchTag = Section.marks 0 block.sections :=
  Section.filter_tagsFrom (fun _ => isPlain_of_mem) (fun _ => isBranchTag_of_mem)
    (fun _ => isBranchTag_body_of_mem) 0

theorem isClosing_endif : Markup.IsClosing "endif" := by
  have closes : Markup.Kind.conditional.closingKeyword? = some "endif".toList := rfl
  exact Markup.Kind.isClosing closes

theorem quiet_clause {keyword condition : Text} (hk : IsBranchKeyword keyword)
    (quiet : Quiet "endif" condition) : Quiet "endif" (clause keyword condition) := by
  -- no keyword reaches over a blank, so each word is quiet by itself
  have parts : clause keyword condition =
      [] ++ ' ' :: (keyword ++ ' ' :: (condition ++ ' ' :: [])) := by simp [clause]
  have seam {s t : Text} : Quiet "endif" (s ++ ' ' :: t) ↔ Quiet "endif" s ∧ Quiet "endif" t :=
    Markup.quiet_append_cons_iff isClosing_endif.nonempty isClosing_endif.noBlank rfl
  have word : Quiet "endif" keyword := by
    rcases hk with rfl | rfl <;> decide
  rw [parts, seam, seam, seam]
  exact ⟨isClosing_endif.quiet_nil, word, quiet, isClosing_endif.quiet_nil⟩

/-- Behind its first tag a block is quiet up to its end. -/
theorem quiet_of_mem (further : List Branch) (hfurther : ∀ b ∈ further, b ∈ block.branches.tail)
    (mem : s ∈ Branch.sections "elseif" further ++ elseSection block.otherwise) :
    Quiet "endif" s.inner ∧ Quiet "endif" s.body := by
  have among (b : Branch) (hb : b ∈ further) : b ∈ block.branches :=
    List.mem_of_mem_tail (hfurther b hb)
  rcases List.mem_append.mp mem with mem | mem
  · obtain ⟨keyword, b, hk, hb, rfl⟩ := mem_sections (.inr rfl) mem
    exact ⟨quiet_clause hk (block.quiet b (hfurther b hb)), (block.isBody b (among b hb)).quiet⟩
  · obtain ⟨body, hbody, rfl⟩ := mem_elseSection mem
    have keyword : Quiet "endif" " else ".toList := by decide
    exact ⟨keyword, (block.isBody_otherwise body hbody).quiet⟩

theorem text_ne_nil : block.text ≠ [] := by
  obtain ⟨first, further, same⟩ := List.exists_cons_of_ne_nil block.nonempty
  simp [text, sections, same, Branch.sections, Section.text, Markup.opening]

/-- **A conditional block is one placeholder.** -/
theorem scan_text : scan block.text = [block.placeholder] := by
  obtain ⟨first, further, same⟩ := List.exists_cons_of_ne_nil block.nonempty
  have hfirst : first ∈ block.branches := same ▸ List.mem_cons_self ..
  have condition := block.isCondition first hfirst
  have body := block.isBody first hfirst
  have if_keyword : IsBranchKeyword "if" := .inl rfl
  have kind : Markup.Kind.classify (normalize (first.toSection "if").inner) = .conditional := by
    have classified := Markup.Kind.classify_clause if_keyword.ne_nil if_keyword.isAlpha
      condition.filled
    exact classified
  have scanned := Section.scan_block (isPlain_toSection if_keyword condition body) kind rfl
    body.quiet fun s => block.quiet_of_mem further (by simp [same])
  have whole : block.text = Section.textOf (first.toSection "if" ::
      (Branch.sections "elseif" further ++ elseSection block.otherwise) ++
        [Section.ending "endif"]) := by
    simp [text, sections, endings, same, Branch.sections]
  have head : block.branches.head block.nonempty = first := by simp [same]
  rw [placeholder, directive, head, whole]
  exact scanned

end IfBlock

end Stencil
