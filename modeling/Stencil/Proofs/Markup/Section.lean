import Stencil.Proofs.Markup.Delimited
import Stencil.Proofs.Markup.Directive

/-!
# Texts written as sections

A block is written as sections, each a tag with the text up to the next tag. Its own tags are
found where they were written, the tags within the texts between them, and nothing else: a stray
marker in a text does not reach the tag behind it. A block of sections is one placeholder if its
closing keyword stands in none of them.

## Main definitions

* `Section`: the content of a tag, and the text behind the tag
* `Section.textOf`, `Section.marks`: the text of sections, and their own tags
* `Quiet keyword text`: no letter case of `keyword` occurs in `text`

## Main results

* `tagsFrom_append_tag`: the tags of a text in front of a tag
* `Section.slice_body`: the text of a section lies between its tag and the next one
* `Section.filter_tagsFrom`: the own tags of sections among all tags of their text
* `Section.scan_block`: a block of sections is one placeholder
-/

namespace Stencil.Markup

/-! ## Contents without braces -/

theorem not_opening_infix_cons_of_notMem {inner : Text} (h : '{' ∉ inner) :
    ¬ opening <:+: '{' :: inner := by
  rw [opening, List.infix_cons_iff]
  rintro (⟨rest, same⟩ | found)
  · cases inner with
    | nil => cases same
    | cons c inner =>
      obtain ⟨rfl, -⟩ := List.cons_eq_cons.mp (List.tail_eq_of_cons_eq same)
      exact h (List.mem_cons_self ..)
  · exact not_opening_infix_of_notMem h found

theorem not_closing_infix_append_of_notMem {inner : Text} (h : '}' ∉ inner) :
    ¬ closing <:+: inner ++ ['}'] := by
  rw [closing, Text.pair_infix_append_iff]
  rintro (found | found | ⟨last, -⟩)
  · exact h (found.subset (List.mem_cons_self ..))
  · exact absurd found.length_le (by decide)
  · exact h (List.mem_of_getLast? last)

/-- A tag without braces in it that opens no block is delimited. -/
theorem delimits_tag {inner : Text} (noOpening : '{' ∉ inner) (noClosing : '}' ∉ inner)
    (single : (Kind.classify (normalize inner)).closingKeyword? = none) :
    Span.Delimits ⟨opening ++ inner ++ closing, normalize inner, Kind.classify (normalize inner)⟩
      inner [] :=
  delimits_of_single (nextTag?_of_inner (not_opening_infix_of_notMem noOpening)
    (not_closing_infix_append_of_notMem noClosing) []) single

/-! ## Tags and where they stand -/

section Tags

variable {text : Text} {tag : NextTag}

theorem tagsFrom_of_none (h : nextTag? text = none) (position : Nat) :
    tagsFrom position text = [] := by
  rw [tagsFrom]
  split
  · rfl
  · next found => simp [h] at found

@[simp] theorem tagsFrom_nil (position : Nat) : tagsFrom position [] = [] :=
  tagsFrom_of_none (by decide) position

theorem tagsFrom_of_some (h : nextTag? text = some tag) (position : Nat) :
    tagsFrom position text =
      Tag.ofInner (position + tag.before.length) (position + tag.before.length + tag.raw.length)
        tag.inner :: tagsFrom (position + tag.before.length + tag.raw.length) tag.after := by
  rw [tagsFrom]
  split
  · next found => simp [h] at found
  · next found =>
    obtain rfl := Option.some.inj (h.symm.trans found)
    rfl

/-- The tag a number of characters further behind. -/
def Tag.shift (distance : Nat) (tag : Tag) : Tag :=
  { tag with start := distance + tag.start, stop := distance + tag.stop }

/-- **Where a text starts** only shifts its tags. -/
theorem tagsFrom_eq_map_shift (position : Nat) (text : Text) :
    tagsFrom position text = (tags text).map (Tag.shift position) := by
  -- the walk carries its position along, so the shift is stated at every one of them
  have shifted : ∀ offset, tagsFrom (position + offset) text =
      (tagsFrom offset text).map (Tag.shift position) := by
    intro offset
    fun_induction tagsFrom offset text with
    | case1 offset text none => exact tagsFrom_of_none none _
    | case2 offset text tag found start stop ih =>
      rw [tagsFrom_of_some found, List.map_cons, ← ih]
      simp only [start, stop, Nat.add_assoc]
      rfl
  exact shifted 0

/-- **The tags of a text in front of a tag** are those that it has alone, and the rest are that tag
and those behind it. -/
theorem tagsFrom_append_tag {front inner : Text} (last : front.getLast? ≠ some '{')
    (noOpening : ¬ opening <:+: '{' :: inner) (noClosing : ¬ closing <:+: inner ++ ['}'])
    (position : Nat) (extra : Text) :
    tagsFrom position (front ++ (opening ++ inner ++ closing ++ extra)) =
      tagsFrom position front ++
        tagsFrom (position + front.length) (opening ++ inner ++ closing ++ extra) := by
  fun_induction tagsFrom position front with
  | case1 position front none =>
    -- without a tag in front, a stray opening marker is text in front of the tag
    have found := nextTag?_append_tag last noOpening noClosing extra
    rw [none] at found
    have found := found.resolve_right (by simp)
    have own := nextTag?_of_inner (fun h => noOpening (List.infix_cons h)) noClosing extra
    rw [List.nil_append, tagsFrom_of_some found, tagsFrom_of_some own]
    rfl
  | case2 position front tag found start stop ih =>
    -- a tag in front is found first, and what is behind it ends as the front does
    have length : stop + tag.after.length = position + front.length :=
      NextTag.length_eq found position
    rw [tagsFrom_of_some (nextTag?_append found _), ← length, List.cons_append,
      ← ih (NextTag.getLast?_after_ne found last)]
    rfl

end Tags

/-! ## Sections -/

/-- A tag together with the text up to the next one. -/
structure Section where
  /-- The content of the tag. -/
  inner : Text
  /-- The text behind the tag. -/
  body : Text

namespace Section

/-- The tag and the text behind it. -/
def text (s : Section) : Text := opening ++ s.inner ++ closing ++ s.body

/-- The text of sections one after the other. -/
def textOf (sections : List Section) : Text := sections.flatMap text

/-- The tag of a section that starts at a position. -/
def mark (position : Nat) (s : Section) : Tag :=
  Tag.ofInner position (position + s.inner.length + 4) s.inner

/-- The leading word of the tag, in lower case. -/
def keyword (s : Section) : Text := Text.lower (splitKeyword (normalize s.inner)).1

/-- Where the tag stands does not matter to its leading word. -/
@[simp] theorem keyword_mark (s : Section) (position : Nat) :
    (s.mark position).keyword = s.keyword := rfl

/-- The tags of sections that start at a position. -/
def marks : (position : Nat) → List Section → List Tag
  | _, [] => []
  | position, s :: rest => s.mark position :: marks (position + s.text.length) rest

/-- The tag holds no braces, and the text behind it leaves the next tag alone. -/
structure IsPlain (s : Section) : Prop where
  noOpening : '{' ∉ s.inner
  noClosing : '}' ∉ s.inner
  last : s.body.getLast? ≠ some '{'

@[simp] theorem textOf_nil : textOf [] = [] := rfl

@[simp] theorem textOf_cons (s : Section) (rest : List Section) :
    textOf (s :: rest) = s.text ++ textOf rest := rfl

@[simp] theorem textOf_append (front back : List Section) :
    textOf (front ++ back) = textOf front ++ textOf back := List.flatMap_append

theorem length_text (s : Section) : s.text.length = s.inner.length + 4 + s.body.length := by
  simp only [text, opening, closing, List.length_append, List.length_cons, List.length_nil]
  omega

variable {s : Section} {sections : List Section}

theorem IsPlain.nextTag?_text (plain : s.IsPlain) (extra : Text) :
    nextTag? (s.text ++ extra) = some ⟨[], s.inner, s.body ++ extra⟩ := by
  rw [text, List.append_assoc]
  exact nextTag?_of_inner (not_opening_infix_of_notMem plain.noOpening)
    (not_closing_infix_append_of_notMem plain.noClosing) _

theorem IsPlain.tagsFrom_text (plain : s.IsPlain) (position : Nat) (extra : Text) :
    tagsFrom position (s.text ++ extra) =
      s.mark position :: tagsFrom (position + s.inner.length + 4) (s.body ++ extra) := by
  rw [tagsFrom_of_some (plain.nextTag?_text extra)]
  have length : (NextTag.raw ⟨[], s.inner, s.body ++ extra⟩).length = s.inner.length + 4 := by
    simp only [NextTag.raw, opening, closing, List.length_append, List.length_cons,
      List.length_nil]
    omega
  simp only [length, List.length_nil, Nat.add_zero, ← Nat.add_assoc]
  rfl

/-- **The tags of a text in front of a section** are those that it has alone, and the rest are
those of the section and what follows. -/
theorem IsPlain.tagsFrom_append (plain : s.IsPlain) {front : Text}
    (last : front.getLast? ≠ some '{') (position : Nat) (extra : Text) :
    tagsFrom position (front ++ (s.text ++ extra)) =
      tagsFrom position front ++ tagsFrom (position + front.length) (s.text ++ extra) := by
  have behind := tagsFrom_append_tag last (not_opening_infix_cons_of_notMem plain.noOpening)
    (not_closing_infix_append_of_notMem plain.noClosing) position (s.body ++ extra)
  rw [← List.append_assoc (opening ++ s.inner ++ closing)] at behind
  exact behind

/-- The tags of a text in front of sections. -/
theorem tagsFrom_append_textOf (plain : ∀ s ∈ sections, s.IsPlain) {front : Text}
    (last : front.getLast? ≠ some '{') (position : Nat) :
    tagsFrom position (front ++ textOf sections) =
      tagsFrom position front ++ tagsFrom (position + front.length) (textOf sections) := by
  cases sections with
  | nil => simp
  | cons s rest => exact (plain s (List.mem_cons_self ..)).tagsFrom_append last position _

/-- **The own tags of sections** are picked from all tags of their text by a property that the
tags within the texts between them lack. -/
theorem filter_tagsFrom {keep : Tag → Bool} (plain : ∀ s ∈ sections, s.IsPlain)
    (own : ∀ s ∈ sections, ∀ position, keep (s.mark position) = true)
    (others : ∀ s ∈ sections, ∀ position, ∀ tag ∈ tagsFrom position s.body, keep tag = false)
    (position : Nat) :
    (tagsFrom position (textOf sections)).filter keep = marks position sections := by
  induction sections generalizing position with
  | nil => simp [marks]
  | cons s rest ih =>
    obtain ⟨plain_s, plain⟩ := List.forall_mem_cons.mp plain
    obtain ⟨own_s, own⟩ := List.forall_mem_cons.mp own
    obtain ⟨others_s, others⟩ := List.forall_mem_cons.mp others
    have between : (tagsFrom (position + s.inner.length + 4) s.body).filter keep = [] :=
      List.filter_eq_nil_iff.mpr fun tag mem => by simp [others_s _ tag mem]
    rw [textOf_cons, plain_s.tagsFrom_text, tagsFrom_append_textOf plain plain_s.last,
      List.filter_cons_of_pos (own_s position), List.filter_append, between, List.nil_append,
      ih plain own others, marks, length_text]
    simp only [Nat.add_assoc]

/-- The text of a section lies between its tag and the next one. -/
theorem slice_body {raw front : Text} {s next : Section} {rest : List Section}
    (same : raw = front ++ textOf (s :: next :: rest)) :
    raw.slice (s.mark front.length).stop (next.mark (front.length + s.text.length)).start =
      s.body := by
  have stop : (s.mark front.length).stop =
      (front ++ opening ++ s.inner ++ closing).length := by
    change front.length + s.inner.length + 4 = _
    simp only [opening, closing, List.length_append, List.length_cons,
      List.length_nil]
    omega
  have start : (next.mark (front.length + s.text.length)).start =
      (front ++ opening ++ s.inner ++ closing ++ s.body).length := by
    change front.length + s.text.length = _
    simp [text]
  have parts : raw = front ++ opening ++ s.inner ++ closing ++ s.body ++
      textOf (next :: rest) := by
    rw [same]
    simp [text]
  rw [stop, start, parts, Text.slice, List.take_left, List.drop_left]

end Section

/-! ## Blocks of sections -/

/-- No letter case of the keyword occurs in the text. -/
def Quiet (keyword text : Text) : Prop := ¬ keyword <:+: Text.lower text

instance (keyword text : Text) : Decidable (Quiet keyword text) :=
  inferInstanceAs (Decidable (¬ _))

section Quiet

variable {keyword s t : Text} {c : Char}

/-- Both sides of a character that the keyword lacks are quiet if the whole is. -/
theorem quiet_append_cons_iff (hne : keyword ≠ []) (hc : c ∉ keyword) (small : c.toLower = c) :
    Quiet keyword (s ++ c :: t) ↔ Quiet keyword s ∧ Quiet keyword t := by
  rw [Quiet, Text.lower, List.map_append, List.map_cons, small,
    Text.infix_append_cons_iff hne hc, not_or]
  rfl

/-- What a closing keyword is made of: letters, small ones only. -/
structure IsClosing (keyword : Text) : Prop where
  nonempty : keyword ≠ []
  small : Text.lower keyword = keyword
  noBlank : ' ' ∉ keyword
  noOpening : '{' ∉ keyword
  noClosing : '}' ∉ keyword

namespace IsClosing

variable (h : IsClosing keyword)
include h

theorem quiet_nil : Quiet keyword [] := fun found => h.nonempty (List.infix_nil.mp found)

theorem quiet_append_opening_iff :
    Quiet keyword (s ++ opening ++ t) ↔ Quiet keyword s ∧ Quiet keyword t := by
  have braces : s ++ opening ++ t = s ++ '{' :: ([] ++ '{' :: t) := by simp [opening]
  rw [braces, quiet_append_cons_iff h.nonempty h.noOpening rfl,
    quiet_append_cons_iff h.nonempty h.noOpening rfl]
  simp [h.quiet_nil]

theorem quiet_append_closing_iff :
    Quiet keyword (s ++ closing ++ t) ↔ Quiet keyword s ∧ Quiet keyword t := by
  have braces : s ++ closing ++ t = s ++ '}' :: ([] ++ '}' :: t) := by simp [closing]
  rw [braces, quiet_append_cons_iff h.nonempty h.noClosing rfl,
    quiet_append_cons_iff h.nonempty h.noClosing rfl]
  simp [h.quiet_nil]

/-- Sections are quiet behind a quiet text if their contents and their texts are. -/
theorem quiet_append_textOf {sections : List Section} (front : Quiet keyword s)
    (quiet : ∀ s ∈ sections, Quiet keyword s.inner ∧ Quiet keyword s.body) :
    Quiet keyword (s ++ Section.textOf sections) := by
  induction sections generalizing s with
  | nil => simpa using front
  | cons first rest ih =>
    obtain ⟨⟨inner, body⟩, quiet⟩ := List.forall_mem_cons.mp quiet
    -- both markers hold characters that the keyword lacks, so it cannot reach over them
    have whole : s ++ Section.textOf (first :: rest) =
        s ++ opening ++ (first.inner ++ closing ++ first.body) ++ Section.textOf rest := by
      simp [Section.text]
    rw [whole]
    exact ih (h.quiet_append_opening_iff.mpr
      ⟨front, h.quiet_append_closing_iff.mpr ⟨inner, body⟩⟩) quiet

end IsClosing

end Quiet

theorem Kind.isClosing {kind : Kind} {keyword : Text} (h : kind.closingKeyword? = some keyword) :
    IsClosing keyword := by
  cases kind <;> cases h <;> constructor <;> decide

/-- The section that closes a block. -/
def Section.ending (keyword : Text) : Section := ⟨' ' :: keyword ++ [' '], []⟩

/-- **The end of a block of sections** is its closing section. -/
theorem IsClosing.isBlockBody {keyword body : Text} (h : IsClosing keyword)
    (quiet : Quiet keyword body) :
    IsBlockBody keyword (body ++ (Section.ending keyword).text) := by
  refine ⟨body ++ opening ++ [' '], keyword, [' '], ?_, h.small, ?_, by decide⟩
  · simp [Section.ending, Section.text]
  · have seam : Text.lower (body ++ opening ++ [' ']) ++ keyword.dropLast =
        Text.lower (body ++ opening) ++ ' ' :: keyword.dropLast := by
      simp [Text.lower]
    have front : Quiet keyword (body ++ opening ++ []) :=
      h.quiet_append_opening_iff.mpr ⟨quiet, h.quiet_nil⟩
    rw [List.append_nil] at front
    rw [seam, Text.infix_append_cons_iff h.nonempty h.noBlank]
    rintro (found | found)
    · exact front found
    · have short := found.length_le
      have long := List.length_pos_iff.mpr h.nonempty
      rw [List.length_dropLast] at short
      omega

section Block

variable {first : Section} {sections : List Section} {kind : Kind} {keyword : Text}
  (plain : first.IsPlain) (classified : Kind.classify (normalize first.inner) = kind)
  (block : kind.closingKeyword? = some keyword) (body : Quiet keyword first.body)
  (quiet : ∀ s ∈ sections, Quiet keyword s.inner ∧ Quiet keyword s.body)
include plain classified block body quiet

/-- **A block of sections is one span** if its closing keyword stands in none of them but the
first tag and the last. -/
theorem Section.delimits_block :
    Span.Delimits ⟨Section.textOf (first :: sections ++ [Section.ending keyword]),
        normalize first.inner, kind⟩
      first.inner (first.body ++ Section.textOf sections ++ (Section.ending keyword).text) where
  raw_eq := by simp [Section.text]
  noOpening := not_opening_infix_of_notMem plain.noOpening
  noClosing := not_closing_infix_append_of_notMem plain.noClosing
  directive_eq := rfl
  kind_eq := classified.symm
  body_eq_nil single := by
    rw [block] at single
    cases single
  isBlockBody other same := by
    obtain rfl := Option.some.inj (block.symm.trans same)
    exact (Kind.isClosing block).isBlockBody ((Kind.isClosing block).quiet_append_textOf body quiet)

/-- **A block of sections is one placeholder.** -/
theorem Section.scan_block :
    let text := Section.textOf (first :: sections ++ [Section.ending keyword])
    scan text = [⟨⟨text, normalize first.inner, kind⟩, 0⟩] :=
  (Section.delimits_block plain classified block body quiet).scan_raw

end Block

end Stencil.Markup
