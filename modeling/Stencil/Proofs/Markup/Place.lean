import Stencil.Proofs.Markup.Join

/-!
# Places of placeholders

The offset of a placeholder counts the bytes in front of it. It lies between two characters, even if
there are characters of several bytes, and what stands there is the text of the placeholder. The
placeholders follow each other without overlapping, however stray markers, blocks without an end and
repeated spans move the search for them.

## Main definitions

* `Text.cutAtByte?`, `Text.atBytes?`: a text taken apart at a byte, and the text at some bytes
* `WellFormed text placeholders`: the placeholders are distinct, in order, and read from `text`

## Main results

* `Text.atBytes?_eq_some_iff`: what stands at some bytes of a text
* `pairwise_visitedFrom`: the visited spans follow each other
* `placeholdersFrom_sublist`: the placeholders are visited spans at their places
* `wellFormed_scan`: the placeholders of every text are well formed
-/

namespace Stencil

/-! ## Bytes of a text -/

namespace Text

/-- The text before and after a byte, if this byte starts a character or ends the text. -/
def cutAtByte? : (offset : Nat) → Text → Option (Text × Text)
  | 0, text => some ([], text)
  | _ + 1, [] => none
  | offset + 1, c :: rest =>
    if c.utf8Size ≤ offset + 1 then
      (cutAtByte? (offset + 1 - c.utf8Size) rest).map fun (before, after) => (c :: before, after)
    else none

/-- The text that takes up a number of bytes from a byte on, if both ends lie between characters. -/
def atBytes? (offset length : Nat) (text : Text) : Option Text := do
  let (_, behind) ← cutAtByte? offset text
  let (part, _) ← cutAtByte? length behind
  return part

/-- **A cut at a byte** is told by the length of what stands before it. -/
theorem cutAtByte?_eq_some_iff {offset : Nat} {text before after : Text} :
    cutAtByte? offset text = some (before, after) ↔
      text = before ++ after ∧ byteLength before = offset := by
  fun_induction cutAtByte? offset text generalizing before after with
  | case1 text =>
    rw [Option.some.injEq, Prod.mk.injEq]
    constructor
    · rintro ⟨rfl, rfl⟩
      exact ⟨rfl, rfl⟩
    · rintro ⟨rfl, none⟩
      obtain rfl := byteLength_eq_zero none
      exact ⟨rfl, rfl⟩
  | case2 offset =>
    refine iff_of_false (Option.some_ne_none _).symm ?_
    rintro ⟨same, length⟩
    rw [(List.nil_eq_append_iff.mp same).1] at length
    cases length
  | case3 offset c rest fits ih =>
    simp only [Option.map_eq_some_iff, Prod.exists, Prod.mk.injEq, ih]
    constructor
    · rintro ⟨front, behind, ⟨rfl, length⟩, rfl, rfl⟩
      refine ⟨rfl, ?_⟩
      rw [byteLength_cons, length]
      omega
    · rintro ⟨same, length⟩
      cases before with
      | nil => cases length
      | cons d front =>
        obtain ⟨rfl, rfl⟩ := List.cons.inj same
        rw [byteLength_cons] at length
        exact ⟨front, after, ⟨rfl, by omega⟩, rfl, rfl⟩
  | case4 offset c rest beyond =>
    -- the cut would lie inside the first character
    refine iff_of_false (Option.some_ne_none _).symm ?_
    rintro ⟨same, length⟩
    cases before with
    | nil => cases length
    | cons d front =>
      obtain ⟨rfl, -⟩ := List.cons.inj same
      rw [byteLength_cons] at length
      omega

/-- **What stands at some bytes** of a text. -/
theorem atBytes?_eq_some_iff {offset length : Nat} {text part : Text} :
    atBytes? offset length text = some part ↔
      ∃ before after, text = before ++ part ++ after ∧ byteLength before = offset ∧
        byteLength part = length := by
  simp only [atBytes?, Option.bind_eq_bind, Option.bind_eq_some_iff, Prod.exists,
    cutAtByte?_eq_some_iff, Option.pure_def, Option.some.injEq]
  constructor
  · rintro ⟨before, behind, ⟨rfl, front⟩, part, after, ⟨rfl, here⟩, rfl⟩
    exact ⟨before, after, (List.append_assoc ..).symm, front, here⟩
  · rintro ⟨before, after, rfl, front, here⟩
    exact ⟨before, part ++ after, ⟨List.append_assoc .., front⟩, part, after, ⟨rfl, here⟩, rfl⟩

end Text

namespace Markup

/-! ## Places of spans -/

/-- The byte behind a placeholder. -/
def Placeholder.stop (p : Placeholder) : Nat := p.offset + Text.byteLength p.raw

namespace Layout

/-- **The visited spans** follow each other: each one starts and ends in front of the next ones. -/
theorem pairwise_visitedFrom {spans : List (Text × Span)} (offset : Nat)
    (filled : ∀ span ∈ spans.map Prod.snd, span.raw ≠ []) :
    ((visitedFrom offset spans).Pairwise fun p q => p.offset < q.offset ∧ p.stop ≤ q.offset) ∧
      ∀ p ∈ visitedFrom offset spans, offset ≤ p.offset := by
  induction spans generalizing offset with
  | nil => exact ⟨List.Pairwise.nil, fun p mem => absurd mem List.not_mem_nil⟩
  | cons first rest ih =>
    obtain ⟨before, span⟩ := first
    obtain ⟨here, filled⟩ := List.forall_mem_cons.mp filled
    have positive : Text.byteLength span.raw ≠ 0 := fun none => here (Text.byteLength_eq_zero none)
    obtain ⟨later, behind⟩ :=
      ih (offset + Text.byteLength before + Text.byteLength span.raw) filled
    rw [visitedFrom]
    constructor
    · refine List.pairwise_cons.mpr ⟨fun q mem => ?_, later⟩
      have := behind q mem
      exact ⟨by simp only; omega, this⟩
    · refine List.forall_mem_cons.mpr ⟨Nat.le_add_right .., fun q mem => ?_⟩
      have := behind q mem
      omega

/-- A visited span stands where its offset says. -/
theorem exists_eq_append_of_mem_visitedFrom {spans : List (Text × Span)} {offset : Nat}
    {p : Placeholder} (tail : Text) (h : p ∈ visitedFrom offset spans) :
    ∃ before after, Layout.text ⟨spans, tail⟩ = before ++ p.raw ++ after ∧
      p.offset = offset + Text.byteLength before := by
  induction spans generalizing offset with
  | nil => exact absurd h List.not_mem_nil
  | cons first rest ih =>
    obtain ⟨gap, span⟩ := first
    have text : Layout.text ⟨(gap, span) :: rest, tail⟩ =
        gap ++ span.raw ++ Layout.text ⟨rest, tail⟩ := by simp [Layout.text]
    rw [visitedFrom] at h
    rcases List.mem_cons.mp h with rfl | later
    · exact ⟨gap, _, text, rfl⟩
    · obtain ⟨before, after, same, place⟩ := ih later
      refine ⟨gap ++ span.raw ++ before, after, ?_, ?_⟩
      · rw [text, same]
        simp only [List.append_assoc]
      · rw [place, Text.byteLength_append, Text.byteLength_append]
        omega

/-- **The placeholders** are visited spans at their places: of equal ones the first. -/
theorem placeholdersFrom_sublist (offset : Nat) (seen : List Text) (spans : List (Text × Span)) :
    (placeholdersFrom offset seen spans).Sublist (visitedFrom offset spans) := by
  induction spans generalizing offset seen with
  | nil => exact List.Sublist.refl _
  | cons first rest ih =>
    obtain ⟨before, span⟩ := first
    rw [placeholdersFrom, visitedFrom]
    split
    · exact (ih ..).cons _
    · exact (ih ..).cons_cons _

end Layout

/-! ## The placeholders of a text -/

/-- Placeholders that are distinct, in order, and read from a text. -/
structure WellFormed (text : Text) (placeholders : List Placeholder) : Prop where
  /-- No two have the same text. -/
  nodup : (placeholders.map fun p => p.raw).Nodup
  /-- Each one starts and ends in front of those behind it. -/
  ordered : placeholders.Pairwise fun p q => p.offset < q.offset ∧ p.stop ≤ q.offset
  /-- The text of each one takes up the bytes from its offset on. -/
  placed : ∀ p ∈ placeholders,
    Text.atBytes? p.offset (Text.byteLength p.raw) text = some p.raw
  /-- Each one is a tag with its directive and its kind, and reaches up to the closing marker of the
  tag, or through the end of the block that the tag opens. -/
  delimited : ∀ p ∈ placeholders, ∃ inner body, p.toSpan.Delimits inner body

/-- **The placeholders of every text are well formed.** -/
theorem wellFormed_scan (text : Text) : WellFormed text (scan text) where
  nodup := nodup_raw_scan text
  ordered := by
    have filled : ∀ span ∈ (layout text).spans.map Prod.snd, span.raw ≠ [] := by
      intro span mem
      obtain ⟨inner, body, delimits⟩ := delimits_of_mem_layout mem
      exact delimits.raw_ne_nil
    exact (Layout.pairwise_visitedFrom 0 filled).1.sublist (Layout.placeholdersFrom_sublist ..)
  placed := by
    intro p mem
    have visited := (Layout.placeholdersFrom_sublist ..).subset mem
    obtain ⟨before, after, same, place⟩ :=
      Layout.exists_eq_append_of_mem_visitedFrom (layout text).tail visited
    refine Text.atBytes?_eq_some_iff.mpr ⟨before, after, ?_, ?_, rfl⟩
    · exact (text_layout text).symm.trans same
    · rw [place, Nat.zero_add]
  delimited := fun p mem => delimits_of_mem_layout (mem_layout_of_mem_scan mem)

/-- A character of two bytes, a stray marker, a repeated tag, and a block without an end. -/
example :
    (scan ("é".toList ++ opening ++ " {{ a }}{{ a }}{{ if b }}{{ c }}".toList)).map
      (fun p => (p.offset, p.raw)) = [(5, "{{ a }}".toList), (29, "{{ c }}".toList)] := by
  decide +kernel

end Markup

end Stencil
