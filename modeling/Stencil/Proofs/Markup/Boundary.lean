import Stencil.Markup.Placeholder
import Stencil.Proofs.Text.Occurrence

/-!
# Where tags and blocks end

A tag and the end of a block are found by searches that run to the end of the text. Their
results are local nevertheless: they depend on no text behind a closing marker, on no text
in front that is free of opening markers, and on no text around them without braces.

## Main definitions

* `IsBlockBody keyword body`: a block closed by `keyword` ends exactly where `body` ends

## Main results

* `nextTag?_eq_none_iff`: a text has no tag iff no closing marker follows an opening one
* `nextTag?_append`, `nextTag?_append_left`: text behind a tag, and in front of one
* `nextTag?_of_inner`: a tag is read back from its own text
* `nextTag?_append_tag`: a tag behind a text is the first one, or the text has one of its own
* `blockEnd?_eq_some_iff`: the end of a block depends on the text up to it alone
-/

namespace Stencil.Markup

variable {text inner front : Text} {tag : NextTag}

theorem opening_ne_nil : opening ≠ [] := List.cons_ne_nil _ _

theorem closing_ne_nil : closing ≠ [] := List.cons_ne_nil _ _

/-- No opening marker lies across the seam of two texts unless the first one ends in a
brace. -/
theorem not_opening_infix_append {s t : Text} (hs : ¬ opening <:+: s) (ht : ¬ opening <:+: t)
    (last : s.getLast? ≠ some '{') : ¬ opening <:+: s ++ t := by
  rw [opening, Text.pair_infix_append_iff]
  rintro (h | h | h)
  · exact hs h
  · exact ht h
  · exact last h.1

/-- No closing marker lies across the seam of two texts unless the second one starts with
a brace. -/
theorem not_closing_infix_append {s t : Text} (hs : ¬ closing <:+: s) (ht : ¬ closing <:+: t)
    (head : t.head? ≠ some '}') : ¬ closing <:+: s ++ t := by
  rw [closing, Text.pair_infix_append_iff]
  rintro (h | h | h)
  · exact hs h
  · exact ht h
  · exact head h.2

theorem not_opening_infix_of_notMem {s : Text} (h : '{' ∉ s) : ¬ opening <:+: s :=
  fun found => h (found.subset (List.mem_cons_self ..))

/-! ## The next tag -/

/-- The tag that two successive cuts leave. -/
theorem nextTag?_of_cuts {before rest inside after : Text}
    (first : Text.cut? opening text = some (before, rest))
    (second : Text.cut? closing rest = some (inside, after)) :
    nextTag? text =
      match Text.cutLast? opening inside with
      | none => some ⟨before, inside, after⟩
      | some (stray, inner) => some ⟨before ++ opening ++ stray, inner, after⟩ := by
  cases third : Text.cutLast? opening inside with
  | none => simp only [nextTag?, first, second, third]
  | some cut => simp only [nextTag?, first, second, third]

/-- A tag was found by two successive cuts. -/
theorem exists_cuts_of_nextTag? (h : nextTag? text = some tag) :
    ∃ before rest inside after, Text.cut? opening text = some (before, rest) ∧
      Text.cut? closing rest = some (inside, after) := by
  cases first : Text.cut? opening text with
  | none => simp [nextTag?, first] at h
  | some cut =>
    obtain ⟨before, rest⟩ := cut
    cases second : Text.cut? closing rest with
    | none => simp [nextTag?, first, second] at h
    | some cut => exact ⟨before, rest, cut.1, cut.2, rfl, second⟩

/-- **A text has a tag** iff it has a closing marker somewhere behind an opening one. -/
theorem nextTag?_eq_none_iff :
    nextTag? text = none ↔
      ¬ ∃ before inside after, text = before ++ opening ++ inside ++ closing ++ after := by
  constructor
  · rintro h ⟨before, inside, after, same⟩
    cases first : Text.cut? opening text with
    | none =>
      refine Text.cut?_eq_none_iff.mp first ⟨before, inside ++ closing ++ after, ?_⟩
      simp [same]
    | some cut =>
      obtain ⟨lead, rest⟩ := cut
      obtain ⟨m, rfl, behind⟩ := Text.exists_eq_append_of_cut? opening_ne_nil first
        (s := before) (t := inside ++ closing ++ after) (by simp [same])
      have late : inside ++ closing ++ after <:+ rest := by
        refine List.suffix_of_suffix_length_le ⟨m ++ opening, behind.symm⟩
          (List.suffix_append opening rest) ?_
        have := congrArg List.length behind
        simp only [List.length_append] at this ⊢
        omega
      cases second : Text.cut? closing rest with
      | none =>
        refine Text.cut?_eq_none_iff.mp second (List.IsInfix.trans ?_ late.isInfix)
        exact ⟨inside, after, rfl⟩
      | some cut =>
        rw [nextTag?_of_cuts first second] at h
        split at h <;> cases h
  · intro h
    cases found : nextTag? text with
    | none => rfl
    | some tag => exact absurd ⟨_, _, _, by simpa [NextTag.raw] using NextTag.eq_text found⟩ h

/-- The content of a tag holds no opening marker, and no closing one that ends with it or
earlier. -/
theorem NextTag.inner_quiet (h : nextTag? text = some tag) :
    ¬ opening <:+: tag.inner ∧ ¬ closing <:+: tag.inner ++ ['}'] := by
  obtain ⟨before, rest, inside, after, first, second⟩ := exists_cuts_of_nextTag? h
  rw [nextTag?_of_cuts first second] at h
  have quiet := ((Text.cut?_eq_some_iff closing_ne_nil).mp second).2
  split at h
  · next third =>
    cases h
    exact ⟨Text.cutLast?_eq_none_iff.mp third, quiet⟩
  · next stray inner third =>
    cases h
    obtain ⟨rfl, last⟩ := (Text.cutLast?_eq_some_iff opening_ne_nil).mp third
    refine ⟨fun found => last (found.trans (List.suffix_append _ _).isInfix), fun found =>
      quiet (found.trans ⟨stray ++ opening, [], by simp [closing]⟩)⟩

/-- Behind a tag a text ends as it does as a whole. -/
theorem NextTag.getLast?_after_ne {c : Char} (h : nextTag? text = some tag)
    (last : text.getLast? ≠ some c) : tag.after.getLast? ≠ some c := by
  intro ends
  rw [NextTag.eq_text h, List.getLast?_append, ends] at last
  exact last rfl

/-- Where the text behind a tag ends, the whole text ends. -/
theorem NextTag.length_eq (h : nextTag? text = some tag) (position : Nat) :
    position + tag.before.length + tag.raw.length + tag.after.length = position + text.length := by
  have := congrArg List.length (NextTag.eq_text h)
  simp only [List.length_append] at this
  omega

/-- **Text behind a tag** does not matter to it. -/
theorem nextTag?_append (h : nextTag? text = some tag) (extra : Text) :
    nextTag? (text ++ extra) = some ⟨tag.before, tag.inner, tag.after ++ extra⟩ := by
  obtain ⟨before, rest, inside, after, first, second⟩ := exists_cuts_of_nextTag? h
  rw [nextTag?_of_cuts first second] at h
  rw [nextTag?_of_cuts (Text.cut?_append opening_ne_nil first extra)
    (Text.cut?_append closing_ne_nil second extra)]
  split at h <;> cases h <;> rfl

/-- **Text in front of a tag** that holds no opening marker and ends in no opening brace is
text before the tag. -/
theorem nextTag?_append_left (quiet : ¬ opening <:+: front) (last : front.getLast? ≠ some '{')
    (text : Text) :
    nextTag? (front ++ text) =
      (nextTag? text).map fun tag => ⟨front ++ tag.before, tag.inner, tag.after⟩ := by
  cases first : Text.cut? opening text with
  | none =>
    have absent := not_opening_infix_append quiet (Text.cut?_eq_none_iff.mp first) last
    simp [nextTag?, first, Text.cut?_eq_none_iff.mpr absent]
  | some cut =>
    obtain ⟨before, rest⟩ := cut
    have behind := ((Text.cut?_eq_some_iff opening_ne_nil).mp first).2
    have later := Text.cut?_append_left opening_ne_nil first
      (not_opening_infix_append quiet behind last)
    cases second : Text.cut? closing rest with
    | none => simp [nextTag?, first, second, later]
    | some cut =>
      rw [nextTag?_of_cuts first second, nextTag?_of_cuts later second]
      split <;> simp

/-- **A tag is read back from its own text**, whatever follows. -/
theorem nextTag?_of_inner (noOpening : ¬ opening <:+: inner)
    (noClosing : ¬ closing <:+: inner ++ ['}']) (extra : Text) :
    nextTag? (opening ++ inner ++ closing ++ extra) = some ⟨[], inner, extra⟩ := by
  have first : Text.cut? opening (opening ++ inner ++ closing ++ extra) =
      some ([], inner ++ closing ++ extra) :=
    (Text.cut?_eq_some_iff opening_ne_nil).mpr ⟨by simp, by decide⟩
  have second : Text.cut? closing (inner ++ closing ++ extra) = some (inner, extra) :=
    (Text.cut?_eq_some_iff closing_ne_nil).mpr ⟨rfl, noClosing⟩
  rw [nextTag?_of_cuts first second, Text.cutLast?_eq_none_iff.mpr noOpening]

/-- **A tag behind a text** that ends in no opening brace is the next tag of both together,
unless a tag lies within the text in front. -/
theorem nextTag?_append_tag (last : front.getLast? ≠ some '{')
    (noOpening : ¬ opening <:+: '{' :: inner) (noClosing : ¬ closing <:+: inner ++ ['}'])
    (extra : Text) :
    nextTag? (front ++ (opening ++ inner ++ closing ++ extra)) = some ⟨front, inner, extra⟩ ∨
      ∃ tag, nextTag? front = some tag := by
  have inside : ¬ opening <:+: inner := fun h => noOpening (List.infix_cons h)
  cases first : Text.cut? opening front with
  | none =>
    left
    rw [nextTag?_append_left (Text.cut?_eq_none_iff.mp first) last,
      nextTag?_of_inner inside noClosing]
    simp
  | some cut =>
    obtain ⟨before, stray⟩ := cut
    cases second : Text.cut? closing stray with
    | some cut =>
      right
      rw [nextTag?_of_cuts first second]
      split <;> exact ⟨_, rfl⟩
    | none =>
      left
      obtain ⟨rfl, -⟩ := (Text.cut?_eq_some_iff opening_ne_nil).mp first
      -- the stray opening marker is cut first, and the marker of the tag last
      have middle : Text.cut? closing (stray ++ (opening ++ inner ++ closing ++ extra)) =
          some (stray ++ opening ++ inner, extra) := by
        refine (Text.cut?_eq_some_iff closing_ne_nil).mpr ⟨by simp, ?_⟩
        have noClosing' : ¬ closing <:+: opening ++ (inner ++ ['}']) :=
          fun h => noClosing (by simpa [opening, closing, List.infix_cons_iff] using h)
        rw [List.append_assoc, List.append_assoc]
        exact not_closing_infix_append (Text.cut?_eq_none_iff.mp second)
          (by simpa [closing] using noClosing') (by simp [opening])
      have inmost : Text.cutLast? opening (stray ++ opening ++ inner) = some (stray, inner) :=
        (Text.cutLast?_eq_some_iff opening_ne_nil).mpr ⟨rfl, noOpening⟩
      rw [nextTag?_of_cuts (Text.cut?_append opening_ne_nil first _) middle, inmost]

/-- Text without braces behind a text brings no tag. -/
theorem nextTag?_append_right {behind : Text} (plain : '}' ∉ behind) (h : nextTag? text = none) :
    nextTag? (text ++ behind) = none := by
  rw [nextTag?_eq_none_iff] at h ⊢
  rintro ⟨before, inside, after, same⟩
  obtain ⟨m, rfl, -⟩ := Text.exists_eq_append_of_notMem same (c := '}') (by simp [closing]) plain
  exact h ⟨_, _, m, rfl⟩

/-! ## The end of a block -/

/-- The text of a block behind its opening tag: it closes with the first closing marker
behind the first `keyword`. -/
def IsBlockBody (keyword body : Text) : Prop :=
  ∃ before word between, body = before ++ word ++ between ++ closing ∧
    Text.lower word = keyword ∧ ¬ keyword <:+: Text.lower before ++ keyword.dropLast ∧
    ¬ closing <:+: between ++ ['}']

theorem IsBlockBody.getLast? {keyword body : Text} (h : IsBlockBody keyword body) :
    body.getLast? = some '}' := by
  obtain ⟨before, word, between, rfl, -⟩ := h
  simp [closing]

/-- What is found in front of the end of a block is the text of a block. -/
theorem isBlockBody_of_blockEnd? {keyword body after : Text} (hne : keyword ≠ [])
    (h : blockEnd? keyword text = some (body, after)) : IsBlockBody keyword body := by
  unfold blockEnd? at h
  cases first : Text.cut? keyword (Text.lower text) with
  | none => simp [first] at h
  | some cut =>
    obtain ⟨before, rest⟩ := cut
    simp only [first] at h
    cases second : Text.cut? closing (text.drop (before.length + keyword.length)) with
    | none => simp [second] at h
    | some cut =>
      obtain ⟨between, tail⟩ := cut
      simp only [second, Option.some.injEq, Prod.mk.injEq] at h
      obtain ⟨rfl, rfl⟩ := h
      obtain ⟨same, quiet⟩ := (Text.cut?_eq_some_iff hne).mp first
      have lead : Text.lower (text.take before.length) = before := by
        rw [Text.lower, List.map_take, ← Text.lower, same, List.append_assoc, List.take_left' rfl]
      refine ⟨text.take before.length, (text.drop before.length).take keyword.length, between,
        ?_, ?_, ?_, ((Text.cut?_eq_some_iff closing_ne_nil).mp second).2⟩
      · rw [List.take_add]
      · rw [Text.lower, List.map_take, List.map_drop, ← Text.lower, same, List.append_assoc,
          List.drop_left' rfl, List.take_left' rfl]
      · rwa [lead]

/-- The text of a block ends there, whatever follows. -/
theorem IsBlockBody.blockEnd?_append {keyword body : Text} (hne : keyword ≠ [])
    (h : IsBlockBody keyword body) (after : Text) :
    blockEnd? keyword (body ++ after) = some (body, after) := by
  obtain ⟨before, word, between, rfl, rfl, quiet, noClosing⟩ := h
  have first : Text.cut? (Text.lower word)
      (Text.lower (before ++ word ++ between ++ closing ++ after)) =
        some (Text.lower before, Text.lower (between ++ closing ++ after)) :=
    (Text.cut?_eq_some_iff hne).mpr ⟨by simp [Text.lower], quiet⟩
  have reach : (Text.lower before).length + (Text.lower word).length =
      (before ++ word).length := by simp [Text.lower]
  have second : Text.cut? closing ((before ++ word ++ between ++ closing ++ after).drop
      (before ++ word).length) = some (between, after) := by
    refine (Text.cut?_eq_some_iff closing_ne_nil).mpr ⟨?_, noClosing⟩
    rw [List.append_assoc, List.append_assoc, List.drop_left' rfl, List.append_assoc]
  unfold blockEnd?
  simp only [first, reach, second]
  rw [List.append_assoc (before ++ word), List.append_assoc (before ++ word),
    List.take_left' rfl]
  simp

/-- **The end of a block** depends on the text up to it alone. -/
theorem blockEnd?_eq_some_iff {keyword body after : Text} (hne : keyword ≠ []) :
    blockEnd? keyword text = some (body, after) ↔
      text = body ++ after ∧ IsBlockBody keyword body := by
  constructor
  · exact fun h => ⟨eq_append_of_blockEnd? h, isBlockBody_of_blockEnd? hne h⟩
  · rintro ⟨rfl, isBody⟩
    exact isBody.blockEnd?_append hne after

/-- Text without braces behind a text brings no end of a block. -/
theorem blockEnd?_append_right {keyword behind : Text} (hne : keyword ≠ [])
    (plain : '}' ∉ behind) (h : blockEnd? keyword text = none) :
    blockEnd? keyword (text ++ behind) = none := by
  cases found : blockEnd? keyword (text ++ behind) with
  | none => rfl
  | some cut =>
    obtain ⟨body, after⟩ := cut
    obtain ⟨same, isBody⟩ := (blockEnd?_eq_some_iff hne).mp found
    obtain ⟨m, rfl, -⟩ := Text.exists_eq_append_of_notMem same isBody.getLast? plain
    have early : blockEnd? keyword (body ++ m) = some (body, m) :=
      (blockEnd?_eq_some_iff hne).mpr ⟨rfl, isBody⟩
    rw [h] at early
    cases early

theorem Kind.closingKeyword?_ne_nil {kind : Kind} {keyword : Text}
    (h : kind.closingKeyword? = some keyword) : keyword ≠ [] := by
  cases kind <;> simp [Kind.closingKeyword?] at h <;> simp [← h]

end Stencil.Markup
