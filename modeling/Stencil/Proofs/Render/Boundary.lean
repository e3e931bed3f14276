import Stencil.Proofs.Markup.Closing
import Stencil.Render.Session

/-!
# Where the parts of a block end

A block that is read from a template is split at some of its tags: a conditional block at those that
start or end a branch, and a loop at those that start or end a part of it. The first of them is the
tag that opens the block. The last one closes it if the keyword at which the block was found to end
leads a tag, and then each of its characters stands in one of these tags or between two of them.
Elsewhere, in running text or in the middle of a tag, the keyword ends the block as well, but no tag
of the block closes it.

## Main definitions

* `Fill.boundaries kind raw`: the tags at which a block is split
* `Fill.Closes keyword raw marks`: the last of some tags closes the block
* `Fill.Covers marks raw`: nothing of a block lies outside some tags and the stretches between them

## Main results

* `Fill.exists_boundaries_eq_cons`: a block is split at its opening tag first
* `Fill.closes_iff`: when a block is split at its closing tag last
-/

namespace Stencil.Fill

open Markup (Kind Placeholder Tag Span NoTripleBrace EndsWithTag scan tags)

/-! ## Boundaries -/

/-- Whether a block of a kind is split at a tag. -/
def isBoundary : Kind → Tag → Bool
  | .conditional => isBranchTag
  | .loop => isLoopTag
  | _ => fun _ => false

/-- The tags at which a block is split. -/
def boundaries (kind : Kind) (raw : Text) : List Tag := (tags raw).filter (isBoundary kind)

/-- The branches of a conditional block lie between its boundaries. -/
theorem conditional_eq_branches (setup : Setup) (nested : Nested) (locals : Scope)
    (directive raw : Text) : conditional setup nested locals directive raw =
      branches setup nested locals directive raw (boundaries .conditional raw) := rfl

/-- A loop has parts iff it has a second boundary. -/
theorem loopParts?_eq_none_iff {raw : Text} :
    loopParts? raw = none ↔ (boundaries .loop raw).length < 2 := by
  have parts : boundaries .loop raw = (tags raw).filter isLoopTag := rfl
  rw [loopParts?, parts]
  rcases (tags raw).filter isLoopTag with - | ⟨first, - | ⟨second, rest⟩⟩
  · exact iff_of_true rfl (Nat.succ_pos 1)
  · exact iff_of_true rfl (Nat.lt_succ_self 1)
  · exact iff_of_false (Option.some_ne_none _) (by simp)

/-- A block is split at every tag with the keyword that opens it or the one that closes it. -/
theorem isBoundary_of_keyword {kind : Kind} {keyword : Text} {tag : Tag}
    (block : kind.closingKeyword? = some keyword)
    (word : tag.keyword = kind.name ∨ tag.keyword = keyword) : isBoundary kind tag = true := by
  cases kind <;> cases block <;> rcases word with word | word <;>
    simp only [isBoundary, isBranchTag, isLoopTag, word] <;> decide

/-- **A block is split at its opening tag** first. -/
theorem exists_boundaries_eq_cons {span : Span} {inner body keyword : Text}
    (h : span.Delimits inner body) (block : span.kind.closingKeyword? = some keyword) :
    ∃ first rest, boundaries span.kind span.raw = first :: rest ∧ first.start = 0 ∧
      first.keyword = span.kind.name := by
  have word : (Tag.ofInner 0 (inner.length + 4) inner).keyword = span.kind.name :=
    h.keyword_opening block
  rw [boundaries, h.tags_raw, List.filter_cons_of_pos (isBoundary_of_keyword block (.inl word))]
  exact ⟨_, _, rfl, rfl, word⟩

/-! ## What the boundaries leave out -/

/-- The last of the tags leads with the closing keyword and stops where the block does. -/
def Closes (keyword raw : Text) (marks : List Tag) : Prop :=
  ∃ tag, marks.getLast? = some tag ∧ tag.keyword = keyword ∧ tag.stop = raw.length

/-- Each character of a block stands in one of the tags or between two neighbouring ones. -/
def Covers (marks : List Tag) (raw : Text) : Prop :=
  ∀ place < raw.length, (∃ tag ∈ marks, tag.start ≤ place ∧ place < tag.stop) ∨
    ∃ tag next, [tag, next] <:+: marks ∧ tag.stop ≤ place ∧ place < next.start

/-- From the start of the first tag up to the end of the last one, every place lies in a tag or
between two of them. -/
theorem exists_around {first last : Tag} {rest : List Tag} {place : Nat}
    (start : first.start ≤ place) (ends : (first :: rest).getLast? = some last)
    (stop : place < last.stop) :
    (∃ tag ∈ first :: rest, tag.start ≤ place ∧ place < tag.stop) ∨
      ∃ tag next, [tag, next] <:+: first :: rest ∧ tag.stop ≤ place ∧ place < next.start := by
  -- the last tag that starts no later than the place is the one to look at
  induction rest generalizing first with
  | nil =>
    cases ends
    exact .inl ⟨_, List.mem_cons_self .., start, stop⟩
  | cons next rest ih =>
    by_cases further : next.start ≤ place
    · have ends' : (next :: rest).getLast? = some last := by
        rwa [List.getLast?_cons_cons] at ends
      rcases ih further ends' with ⟨tag, mem, within⟩ | ⟨tag, other, neighbours, between⟩
      · exact .inl ⟨tag, List.mem_cons_of_mem _ mem, within⟩
      · exact .inr ⟨tag, other, List.infix_cons neighbours, between⟩
    · by_cases within : place < first.stop
      · exact .inl ⟨first, List.mem_cons_self .., start, within⟩
      · exact .inr ⟨first, next, ⟨[], rest, rfl⟩, by omega, by omega⟩

/-! ## Closed blocks -/

/-- **When a block is split at its closing tag.** The first boundary of every block that is read
from a template is its opening tag. The last one is its closing tag, at the very end of the block,
exactly if any tag of the block leads with the closing keyword; without three opening braces in a
row this means that the block ends with such a tag. Nothing of the block is then left out by its
boundaries and the stretches between them. -/
theorem closes_iff {text keyword : Text} {p : Placeholder} (mem : p ∈ scan text)
    (block : p.kind.closingKeyword? = some keyword) :
    (∃ first rest, boundaries p.kind p.raw = first :: rest ∧ first.start = 0 ∧
      first.keyword = p.kind.name) ∧
    (Closes keyword p.raw (boundaries p.kind p.raw) ↔ ∃ tag ∈ tags p.raw, tag.keyword = keyword) ∧
    (NoTripleBrace p.raw →
      (Closes keyword p.raw (boundaries p.kind p.raw) ↔ EndsWithTag keyword p.raw)) ∧
    (Closes keyword p.raw (boundaries p.kind p.raw) → Covers (boundaries p.kind p.raw) p.raw) := by
  obtain ⟨inner, body, delimits⟩ :=
    Markup.delimits_of_mem_layout (Markup.mem_layout_of_mem_scan mem)
  have opened := exists_boundaries_eq_cons delimits block
  have closed : Closes keyword p.raw (boundaries p.kind p.raw) ↔
      ∃ tag ∈ tags p.raw, tag.keyword = keyword := by
    constructor
    · rintro ⟨tag, last, word, -⟩
      exact ⟨tag, List.mem_of_mem_filter (List.mem_of_getLast? last), word⟩
    · rintro ⟨tag, mem, word⟩
      obtain ⟨last, stop, -⟩ := delimits.last_of_mem_tags block mem word
      refine ⟨tag, ?_, word, stop⟩
      obtain ⟨earlier, whole⟩ := List.getLast?_eq_some_iff.mp last
      have kept := isBoundary_of_keyword block (.inr word)
      rw [boundaries, whole, List.filter_append, List.filter_cons_of_pos kept, List.filter_nil,
        List.getLast?_concat]
  refine ⟨opened, closed, fun calm => closed.trans (delimits.endsWithTag_iff block calm).symm, ?_⟩
  rintro ⟨tag, last, -, stop⟩ place inside
  obtain ⟨first, rest, whole, start, -⟩ := opened
  rw [whole] at last ⊢
  exact exists_around (by omega) last (by omega)

/-- A conditional block with two branches ends with its closing tag. -/
theorem closes_iff_of_branches :
    let tag (inner : String) : Text := Markup.opening ++ inner.toList ++ Markup.closing
    let raw : Text := tag " if x " ++ "A".toList ++ tag " else " ++ "B".toList ++ tag " EndIf "
    ∃ p ∈ scan raw, p.kind.closingKeyword? = some "endif".toList ∧ p.raw = raw ∧
      Closes "endif" p.raw (boundaries p.kind p.raw) ∧ Covers (boundaries p.kind p.raw) p.raw := by
  intro tag raw
  let p : Placeholder := ⟨⟨raw, "if x".toList, .conditional⟩, 0⟩
  have mem : p ∈ scan raw := by decide +kernel
  have block : p.kind.closingKeyword? = some "endif".toList := rfl
  obtain ⟨-, closed, -, covered⟩ := closes_iff mem block
  have closes : Closes "endif" p.raw (boundaries p.kind p.raw) :=
    closed.mpr (by decide +kernel)
  exact ⟨p, mem, block, rfl, closes, covered closes⟩

/-- **A keyword in running text ends a block that no tag closes**: the only boundary is the opening
tag, and what stands behind it is dropped although the condition holds. -/
theorem boundaries_of_keyword_in_text :
    let tag (inner : String) : Text := Markup.opening ++ inner.toList ++ Markup.closing
    let raw : Text := tag " if x " ++ "A endif ".toList ++ Markup.closing
    let session : Session := { loader := Loader.ofTemplates [] }
    ∃ p ∈ scan raw, p.kind.closingKeyword? = some "endif".toList ∧ p.raw = raw ∧
      ¬ Closes "endif" p.raw (boundaries p.kind p.raw) ∧
      ¬ Covers (boundaries p.kind p.raw) p.raw ∧
      (session.render 0 raw [("x".toList, .bool true)]).1.toOption = some [] := by
  intro tag raw session
  let p : Placeholder := ⟨⟨raw, "if x".toList, .conditional⟩, 0⟩
  have mem : p ∈ scan raw := by decide +kernel
  have marks : boundaries p.kind p.raw = [⟨0, 10, "if".toList, "x".toList⟩] := by decide +kernel
  refine ⟨p, mem, rfl, rfl, ?_, ?_, by decide +kernel⟩
  · rw [marks]
    rintro ⟨last, same, word, -⟩
    cases same
    exact absurd word (by decide)
  · rw [marks]
    intro covers
    rcases covers 10 (by decide) with ⟨other, found, -, stop⟩ | ⟨one, next, neighbours, -⟩
    · rw [List.mem_singleton.mp found] at stop
      exact absurd stop (by decide)
    · exact absurd neighbours.length_le (Nat.not_succ_le_self 1)

end Stencil.Fill
