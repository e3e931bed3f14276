import Stencil.Proofs.Markup.Section
import Stencil.Proofs.Markup.Visit

/-!
# The closing tag of a block

The end of a block is found by a search for its closing keyword, wherever it stands and in whatever
letter case, and its tags by a walk from marker to marker. The leading word of a tag stands in the
tag as it is written, so a tag that leads with the closing keyword is met by the search at the
latest: it is the last tag of the block, and the block ends with it. The search can also stop
earlier, at a keyword that leads no tag, and then no tag of the block is a closing one.

## Main definitions

* `EndsWithTag keyword text`: `text` ends with a tag that leads with `keyword`

## Main results

* `keyword_isInfix`: the leading word of a tag stands in the tag
* `IsBlockBody.eq_nil_of_infix`: a block ends at the first closing marker behind its keyword
* `Span.Delimits.last_of_mem_tags`: a closing tag is the last tag of a block
* `Span.Delimits.endsWithTag_iff`: a block with a closing tag ends with it
-/

namespace Stencil.Markup

/-! ## Keywords stand in their tags -/

/-- A word without blanks in a normalized directive stands in the directive as it is written: all
that is new in a normalized directive are blanks. -/
theorem infix_of_infix_normalize {word directive : Text}
    (plain : ∀ c ∈ word, Text.isBlank c = false) (h : word <:+: normalize directive) :
    word <:+: directive := by
  have noBlank : ' ' ∉ word := fun mem => Bool.noConfusion (plain ' ' mem)
  obtain ⟨front, back, -, -, same⟩ := Text.exists_eq_trim (spaced directive)
  have untrimmed : word <:+: spaced directive := by
    rw [same, ← normalize_eq_trim_spaced]
    exact h.trans ⟨front, back, rfl⟩
  obtain ⟨source, found, image⟩ := List.infix_map_iff.mp untrimmed
  have copied : word = source := by
    rw [image]
    refine (List.map_congr_left fun c mem => ?_).trans (List.map_id source)
    rw [id_eq, ite_eq_right_iff]
    intro blank
    refine absurd ?_ noBlank
    rw [image, List.mem_map]
    exact ⟨c, mem, if_pos blank⟩
  rw [← copied] at found
  exact Text.infix_of_infix_replaceAll noBlank (Text.infix_of_infix_replaceAll noBlank found)

/-- The leading word of a directive consists of letters and stands at its start. -/
theorem splitKeyword_fst (directive : Text) :
    (splitKeyword directive).1 <+: directive ∧
      ∀ c ∈ (splitKeyword directive).1, c.isAlpha = true := by
  unfold splitKeyword
  simp only
  split
  · exact ⟨List.nil_prefix, fun c mem => absurd mem List.not_mem_nil⟩
  · exact ⟨List.takeWhile_prefix _, fun c mem => List.mem_takeWhile_imp mem⟩

/-- **The leading word of a tag** stands in the tag, in some letter case. -/
theorem keyword_isInfix (inner : Text) :
    Text.lower (splitKeyword (normalize inner)).1 <:+: Text.lower inner := by
  obtain ⟨start, letters⟩ := splitKeyword_fst (normalize inner)
  exact (infix_of_infix_normalize (fun c mem => isBlank_of_isAlpha (letters c mem))
    start.isInfix).map _

/-- A block is opened by the keyword of its kind. -/
theorem Kind.lower_keyword_of_classify {directive keyword : Text}
    (block : (Kind.classify directive).closingKeyword? = some keyword) :
    Text.lower (splitKeyword directive).1 = (Kind.classify directive).name := by
  unfold Kind.classify at block ⊢
  simp only at block ⊢
  split
  · next empty =>
    rw [if_pos empty] at block
    cases block
  · next filled =>
    rw [if_neg filled] at block
    cases found : Kind.ofKeyword? (splitKeyword directive).1 with
    | none =>
      rw [found] at block
      cases block
    | some kind =>
      rw [Kind.ofKeyword?] at found
      have asked := List.find?_some found
      exact (eq_of_beq asked).symm

/-- No keyword opens a block and closes it. -/
theorem Kind.name_ne_of_closingKeyword? {kind : Kind} {keyword : Text}
    (block : kind.closingKeyword? = some keyword) : kind.name ≠ keyword := by
  cases kind <;> cases block <;> decide

/-! ## Tags up to the end of a block -/

section Tags

variable {keyword text inner front extra : Text} {position : Nat} {tag : Tag}

/-- A tag of a text that starts at a position, where it is written: `inner` between markers that
leave it alone, with `front` before it and `extra` behind it. -/
structure Tag.IsWritten (tag : Tag) (position : Nat) (text front inner extra : Text) : Prop where
  text_eq : text = front ++ opening ++ inner ++ closing ++ extra
  noOpening : ¬ opening <:+: inner
  noClosing : ¬ closing <:+: inner ++ ['}']
  keyword_eq : tag.keyword = Text.lower (splitKeyword (normalize inner)).1
  stop_eq : tag.stop + extra.length = position + text.length
  behind : ∃ earlier, tagsFrom position text = earlier ++ tag :: tagsFrom tag.stop extra

/-- Every tag of a text is written in it. -/
theorem exists_isWritten_of_mem (h : tag ∈ tagsFrom position text) :
    ∃ front inner extra, tag.IsWritten position text front inner extra := by
  fun_induction tagsFrom position text with
  | case1 => cases h
  | case2 position text next found start stop ih =>
    have whole := NextTag.eq_text found
    have stop_eq : stop + next.after.length = position + text.length :=
      NextTag.length_eq found position
    rcases List.mem_cons.mp h with rfl | h
    · obtain ⟨noOpening, noClosing⟩ := NextTag.inner_quiet found
      have text_eq : text = next.before ++ opening ++ next.inner ++ closing ++ next.after := by
        rw [whole]
        simp [NextTag.raw]
      exact ⟨next.before, next.inner, next.after, text_eq, noOpening, noClosing, rfl, stop_eq, [],
        tagsFrom_of_some found position⟩
    · obtain ⟨front, inner, extra, written⟩ := ih h
      obtain ⟨earlier, behind⟩ := written.behind
      have text_eq : text =
          next.before ++ next.raw ++ front ++ opening ++ inner ++ closing ++ extra := by
        rw [whole, written.text_eq]
        simp
      refine ⟨next.before ++ next.raw ++ front, inner, extra, text_eq, written.noOpening,
        written.noClosing, written.keyword_eq, written.stop_eq.trans stop_eq,
        Tag.ofInner start stop next.inner :: earlier, ?_⟩
      rw [List.cons_append, ← behind]
      exact tagsFrom_of_some found position

/-- The first occurrence of a keyword in a text lies within every front part of the text that the
keyword occurs in. -/
theorem exists_eq_append_of_first {before word behind : Text} (hne : keyword ≠ [])
    (small : Text.lower word = keyword)
    (quiet : ¬ keyword <:+: Text.lower before ++ keyword.dropLast)
    (same : front ++ extra = before ++ word ++ behind) (found : keyword <:+: Text.lower front) :
    ∃ rest, front = before ++ word ++ rest ∧ behind = rest ++ extra := by
  obtain ⟨left, right, occurrence⟩ := found
  have first : Text.cut? keyword (Text.lower (front ++ extra)) =
      some (Text.lower before, Text.lower behind) := by
    refine (Text.cut?_eq_some_iff hne).mpr ⟨?_, quiet⟩
    rw [same, ← small]
    simp [Text.lower]
  have other : Text.lower (front ++ extra) = left ++ keyword ++ (right ++ Text.lower extra) := by
    rw [← List.append_assoc, occurrence]
    simp [Text.lower]
  -- the occurrence in `front` does not start earlier, so the first one ends within `front` too
  obtain ⟨m, rfl, -⟩ := Text.exists_eq_append_of_cut? hne first other
  have length := congrArg List.length occurrence
  have word_length := congrArg List.length small
  simp only [Text.lower, List.length_append, List.length_map] at length word_length
  have within : before ++ word <+: front := by
    refine List.prefix_of_prefix_length_le ⟨behind, same.symm⟩ ⟨extra, rfl⟩ ?_
    simp only [List.length_append]
    omega
  obtain ⟨rest, rfl⟩ := within
  rw [List.append_assoc (before ++ word)] at same
  exact ⟨rest, rfl, (List.append_cancel_left same).symm⟩

/-- **A block ends at the first closing marker behind its keyword**: nothing of it is left behind a
closing marker in front of which the keyword stands. -/
theorem IsBlockBody.eq_nil_of_infix (hne : keyword ≠ [])
    (h : IsBlockBody keyword (front ++ (closing ++ extra)))
    (found : keyword <:+: Text.lower front) : extra = [] := by
  obtain ⟨before, word, between, same, small, quiet, noClosing⟩ := h
  rw [List.append_assoc (before ++ word)] at same
  obtain ⟨rest, rfl, behind⟩ := exists_eq_append_of_first hne small quiet same found
  have ending : Text.cut? closing (between ++ closing) = some (between, []) :=
    (Text.cut?_eq_some_iff closing_ne_nil).mpr ⟨by simp, noClosing⟩
  rw [← List.append_assoc] at behind
  obtain ⟨m, rfl, -⟩ := Text.exists_eq_append_of_cut? closing_ne_nil ending behind
  have length := congrArg List.length behind
  simp only [List.length_append] at length
  exact List.eq_nil_of_length_eq_zero (by omega)

/-- Nothing of a block is left behind a tag that leads with its closing keyword. -/
theorem IsBlockBody.eq_nil_of_isWritten (hne : keyword ≠ []) (h : IsBlockBody keyword text)
    (written : tag.IsWritten position text front inner extra) (same : tag.keyword = keyword) :
    extra = [] := by
  rw [written.text_eq, List.append_assoc (front ++ opening ++ inner)] at h
  refine h.eq_nil_of_infix hne ?_
  rw [← same, written.keyword_eq, Text.lower, Text.lower, List.map_append]
  exact (keyword_isInfix inner).trans (List.suffix_append _ _).isInfix

end Tags

/-! ## Tags of a block -/

/-- The text ends with a tag that leads with a keyword. -/
def EndsWithTag (keyword text : Text) : Prop :=
  ∃ front inner, text = front ++ opening ++ inner ++ closing ∧
    ¬ opening <:+: inner ∧ ¬ closing <:+: inner ++ ['}'] ∧
    Text.lower (splitKeyword (normalize inner)).1 = keyword

namespace Span.Delimits

variable {span : Span} {inner body keyword : Text} (h : span.Delimits inner body)
include h

/-- The first tag of a span is the one that opens it. -/
theorem tags_raw : tags span.raw =
    Tag.ofInner 0 (inner.length + 4) inner :: tagsFrom (inner.length + 4) body := by
  have found := h.nextTag?_append []
  rw [List.append_nil, List.append_nil] at found
  have length : (NextTag.raw ⟨[], inner, body⟩).length = inner.length + 4 := by
    simp only [NextTag.raw, opening, closing, List.length_append, List.length_cons,
      List.length_nil]
    omega
  rw [tags, tagsFrom_of_some found]
  simp only [length, List.length_nil, Nat.zero_add]

variable (block : span.kind.closingKeyword? = some keyword)
include block

/-- The tag that opens a block leads with the keyword of its kind. -/
theorem keyword_opening : Text.lower (splitKeyword (normalize inner)).1 = span.kind.name := by
  rw [h.kind_eq] at block ⊢
  exact Kind.lower_keyword_of_classify block

/-- **A closing tag is the last tag of its block**, and the block ends with it. -/
theorem last_of_mem_tags {tag : Tag} (mem : tag ∈ tags span.raw) (same : tag.keyword = keyword) :
    (tags span.raw).getLast? = some tag ∧ tag.stop = span.raw.length ∧
      EndsWithTag keyword span.raw := by
  have hne := Kind.closingKeyword?_ne_nil block
  rw [h.tags_raw] at mem ⊢
  rcases List.mem_cons.mp mem with rfl | mem
  · exact absurd ((h.keyword_opening block).symm.trans same)
      (Kind.name_ne_of_closingKeyword? block)
  · -- nothing of the block is left behind a closing tag, so the walk is over
    obtain ⟨front, content, extra, written⟩ := exists_isWritten_of_mem mem
    obtain rfl := (h.isBlockBody keyword block).eq_nil_of_isWritten hne written same
    obtain ⟨earlier, behind⟩ := written.behind
    refine ⟨?_, ?_, opening ++ inner ++ closing ++ front, content, ?_, written.noOpening,
      written.noClosing, written.keyword_eq.symm.trans same⟩
    · rw [behind, tagsFrom_nil, ← List.cons_append, List.getLast?_concat]
    · have := written.stop_eq
      rw [h.raw_eq]
      simp only [opening, closing, List.length_append, List.length_cons, List.length_nil] at this ⊢
      omega
    · rw [h.raw_eq, written.text_eq]
      simp

/-- **A block with a closing tag ends with it.** Three opening braces in a row would put the last
one into the tag. -/
theorem endsWithTag_iff (calm : NoTripleBrace span.raw) :
    EndsWithTag keyword span.raw ↔ ∃ tag ∈ tags span.raw, tag.keyword = keyword := by
  constructor
  · rintro ⟨front, inner, whole, noOpening, noClosing, word⟩
    rw [whole, List.append_assoc, List.append_assoc] at calm
    have alone := calm.of_append.not_opening_infix_cons noOpening
    -- no brace in front of the tag can be taken for one of its own, so the walk finds the tag
    have split := tagsFrom_append_tag calm.getLast?_ne alone noClosing 0 []
    rw [tagsFrom_of_some (nextTag?_of_inner noOpening noClosing [])] at split
    have whole' : span.raw = front ++ (opening ++ inner ++ closing ++ []) := by
      rw [whole]
      simp
    rw [tags, whole', split]
    exact ⟨_, List.mem_append_right _ (List.mem_cons_self ..), word⟩
  · rintro ⟨tag, mem, same⟩
    exact (h.last_of_mem_tags block mem same).2.2

end Span.Delimits

end Stencil.Markup
