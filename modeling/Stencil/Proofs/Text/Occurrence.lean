import Mathlib.Data.List.Infix
import Stencil.Text.Basic

/-!
# First and last occurrences of a pattern

A cut at the first occurrence of a pattern is determined by the text in front of it, and a
cut at the last occurrence by the text behind it. So the first cut of a text is the first
cut of every longer text, and cuts can be compared across texts that share a part.

## Main results

* `cut?_eq_some_iff`, `cut?_eq_none_iff`: the first occurrence of a pattern
* `cutLast?_eq_some_iff`, `cutLast?_eq_none_iff`: the last occurrence of a pattern
* `cut?_append`, `cut?_append_left`: a first cut in a longer text
* `infix_append_cons_iff`, `replaceAll_append_cons`: a character that a pattern lacks separates
  the occurrences on its two sides
* `replaceAll_append_of_notMem_left`, `replaceAll_pattern_append`: a replacement copies what is
  foreign to its pattern, and goes on behind an occurrence
* `infix_of_infix_replaceAll`: what a replacement leaves was there before
-/

namespace Stencil.Text

variable {pattern text before after : Text}

/-! ## Patterns at the start of a text -/

theorem isPrefixOf?_eq_none_iff : pattern.isPrefixOf? text = none ↔ ¬ pattern <+: text := by
  constructor
  · rintro h ⟨rest, rfl⟩
    have found := List.isPrefixOf?_eq_some_iff_append_eq.mpr (rfl : pattern ++ rest = _)
    rw [h] at found
    cases found
  · intro h
    cases found : pattern.isPrefixOf? text with
    | none => rfl
    | some rest => exact absurd ⟨rest, List.isPrefixOf?_eq_some_iff_append_eq.mp found⟩ h

/-! ## Occurrences in a text made of two parts -/

/-- A pattern of two characters lies in one of two parts of a text or across their seam. -/
theorem pair_infix_append_iff {a b : Char} {s t : Text} :
    [a, b] <:+: s ++ t ↔
      [a, b] <:+: s ∨ [a, b] <:+: t ∨ (s.getLast? = some a ∧ t.head? = some b) := by
  rw [List.infix_append_iff_ne_nil]
  refine or_congr_right (or_congr_right ⟨?_, ?_⟩)
  · rintro ⟨left, right, hleft, hright, same, ⟨u, rfl⟩, ⟨v, rfl⟩⟩
    obtain ⟨c, left, rfl⟩ := List.exists_cons_of_ne_nil hleft
    obtain ⟨d, right, rfl⟩ := List.exists_cons_of_ne_nil hright
    have := congrArg List.length same
    simp only [List.length_cons, List.length_append, List.length_nil] at this
    obtain rfl : left = [] := List.eq_nil_of_length_eq_zero (by omega)
    obtain rfl : right = [] := List.eq_nil_of_length_eq_zero (by omega)
    simp only [List.cons_append, List.nil_append, List.cons.injEq, and_true] at same
    simp [same.1, same.2]
  · rintro ⟨hlast, hhead⟩
    obtain ⟨u, rfl⟩ := List.getLast?_eq_some_iff.mp hlast
    obtain ⟨v, rfl⟩ := List.head?_eq_some_iff.mp hhead
    exact ⟨[a], [b], by simp, by simp, rfl, ⟨u, rfl⟩, ⟨v, rfl⟩⟩

/-- A part that ends in a character which the text behind `s` lacks lies within `s`. -/
theorem exists_eq_append_of_notMem {s t u v : Text} {c : Char} (same : s ++ t = u ++ v)
    (hlast : u.getLast? = some c) (hmem : c ∉ t) : ∃ m, s = u ++ m ∧ v = m ++ t := by
  rcases List.append_eq_append_iff.mp same with ⟨m, rfl, rfl⟩ | ⟨m, rfl, rfl⟩
  · rcases m.eq_nil_or_concat with rfl | ⟨m, d, rfl⟩
    · exact ⟨[], by simp, by simp⟩
    · simp only [List.concat_eq_append, ← List.append_assoc, List.getLast?_concat,
        Option.some.injEq] at hlast
      exact absurd (by simp [hlast]) hmem
  · exact ⟨m, rfl, rfl⟩

/-! ## Seams -/

section Seam

variable {s t replacement : Text} {c : Char}

/-- A pattern at the start of a text ends in front of a character that it lacks. -/
theorem prefix_append_cons_iff (hc : c ∉ pattern) : pattern <+: s ++ c :: t ↔ pattern <+: s := by
  refine ⟨fun h => ?_, fun h => h.trans (List.prefix_append _ _)⟩
  rcases List.prefix_or_prefix_of_prefix h (List.prefix_append s (c :: t)) with h' | ⟨m, rfl⟩
  · exact h'
  · rw [List.prefix_append_right_inj] at h
    cases m with
    | nil => simp
    | cons d m =>
      obtain ⟨rfl, -⟩ := List.cons_prefix_cons.mp h
      exact absurd (List.mem_append_right s (List.mem_cons_self ..)) hc

/-- **A seam**: a pattern occurs on one side of a character that it lacks. -/
theorem infix_append_cons_iff (hne : pattern ≠ []) (hc : c ∉ pattern) :
    pattern <:+: s ++ c :: t ↔ pattern <:+: s ∨ pattern <:+: t := by
  induction s with
  | nil =>
    have start : ¬ pattern <+: c :: t := fun h =>
      hne (List.prefix_nil.mp ((prefix_append_cons_iff (s := []) hc).mp h))
    simp [List.infix_cons_iff, start, hne]
  | cons d s ih =>
    rw [List.cons_append, List.infix_cons_iff, ih, ← List.cons_append,
      prefix_append_cons_iff hc, List.infix_cons_iff, or_assoc]

theorem replaceAll_of_notMem (hc : c ∈ pattern) (absent : c ∉ text) :
    replaceAll pattern replacement text = text := by
  rw [replaceAll, replacing]
  induction text with
  | nil => rfl
  | cons d rest ih =>
    have none : ¬ (pattern ≠ [] ∧ pattern.isPrefixOf (d :: rest)) := fun h =>
      absent ((List.isPrefixOf_iff_prefix.mp h.2).subset hc)
    rw [replacingFrom, if_neg none]
    exact congrArg (d :: ·) (ih fun mem => absent (List.mem_cons_of_mem _ mem))

/-- A walk that recognises nothing across `c` goes on afresh behind it. -/
theorem replacingFrom_append_cons {find : Text → Option (Nat × Text)}
    (at_seam : find (c :: t) = none) (before_seam : ∀ s, find (s ++ c :: t) = find s)
    (within : ∀ s length replacement, find s = some (length, replacement) → length ≤ s.length)
    {skip : Nat} (h : skip ≤ s.length) :
    replacingFrom find skip (s ++ c :: t) =
      replacingFrom find skip s ++ c :: replacingFrom find 0 t := by
  induction s generalizing skip with
  | nil =>
    obtain rfl := Nat.le_zero.mp h
    simp [replacingFrom, at_seam]
  | cons d s ih =>
    cases skip with
    | succ skip => exact ih (Nat.le_of_succ_le_succ h)
    | zero =>
      have same := before_seam (d :: s)
      rw [List.cons_append] at same ⊢
      simp only [replacingFrom, same]
      cases found : find (d :: s) with
      | none => exact congrArg (d :: ·) (ih (Nat.zero_le _))
      | some hit =>
        obtain ⟨length, replacement⟩ := hit
        have := within _ _ _ found
        rw [List.length_cons] at this
        simp only
        rw [ih (by omega), List.append_assoc]

/-- **A replacement** goes on afresh behind a seam. -/
theorem replaceAll_append_cons (hc : c ∉ pattern) :
    replaceAll pattern replacement (s ++ c :: t) =
      replaceAll pattern replacement s ++ c :: replaceAll pattern replacement t := by
  have seam (s : Text) : pattern.isPrefixOf (s ++ c :: t) = pattern.isPrefixOf s := by
    rw [Bool.eq_iff_iff, List.isPrefixOf_iff_prefix, List.isPrefixOf_iff_prefix,
      prefix_append_cons_iff hc]
  refine replacingFrom_append_cons ?_ (fun s => ?_) (fun s length _ found => ?_) (Nat.zero_le _)
  · refine if_neg fun ⟨hne, start⟩ => hne ?_
    rw [← List.nil_append (c :: t), seam, List.isPrefixOf_iff_prefix] at start
    exact List.prefix_nil.mp start
  · simp only [seam]
  · split at found
    · next start =>
      cases found
      exact (List.isPrefixOf_iff_prefix.mp start.2).length_le
    · cases found

/-! ## Replacing in a text of known parts -/

theorem replaceAll_cons (hc : c ∉ pattern) :
    replaceAll pattern replacement (c :: t) = c :: replaceAll pattern replacement t :=
  replaceAll_append_cons (s := []) hc

/-- Characters that the pattern lacks are copied. -/
theorem replaceAll_append_of_notMem_left (foreign : ∀ c ∈ s, c ∉ pattern) :
    replaceAll pattern replacement (s ++ t) = s ++ replaceAll pattern replacement t := by
  induction s with
  | nil => rfl
  | cons c s ih =>
    rw [List.forall_mem_cons] at foreign
    rw [List.cons_append, replaceAll_cons foreign.1, ih foreign.2, List.cons_append]

theorem replaceAll_append_of_notMem_right (foreign : ∀ c ∈ t, c ∉ pattern) :
    replaceAll pattern replacement (s ++ t) = replaceAll pattern replacement s ++ t := by
  cases t with
  | nil => rw [List.append_nil, List.append_nil]
  | cons c t =>
    rw [List.forall_mem_cons] at foreign
    have copied : replaceAll pattern replacement (t ++ []) = t ++ [] :=
      replaceAll_append_of_notMem_left foreign.2
    rw [List.append_nil] at copied
    rw [replaceAll_append_cons foreign.1, copied]

theorem replacingFrom_length {find : Text → Option (Nat × Text)} :
    replacingFrom find s.length (s ++ t) = replacingFrom find 0 t := by
  induction s with
  | nil => rfl
  | cons c s ih => exact ih

/-- What is recognised is replaced, and the walk goes on behind it. -/
theorem replacing_append {find : Text → Option (Nat × Text)} (hne : s ≠ [])
    (found : find (s ++ t) = some (s.length, replacement)) :
    replacing find (s ++ t) = replacement ++ replacing find t := by
  obtain ⟨c, rest, rfl⟩ := List.exists_cons_of_ne_nil hne
  rw [List.cons_append] at found
  rw [replacing, List.cons_append, replacingFrom, found]
  exact congrArg _ replacingFrom_length

/-- An occurrence of the pattern is replaced. -/
theorem replaceAll_pattern_append (hne : pattern ≠ []) :
    replaceAll pattern replacement (pattern ++ t) =
      replacement ++ replaceAll pattern replacement t :=
  replacing_append hne
    (if_pos ⟨hne, List.isPrefixOf_iff_prefix.mpr (List.prefix_append pattern t)⟩)

theorem replaceAll_of_length_lt (short : t.length < pattern.length) :
    replaceAll pattern replacement t = t := by
  induction t with
  | nil => rfl
  | cons c t ih =>
    have absent : ¬ (pattern ≠ [] ∧ pattern.isPrefixOf (c :: t) = true) := fun ⟨_, start⟩ =>
      absurd (List.isPrefixOf_iff_prefix.mp start).length_le (by omega)
    rw [replaceAll, replacing, replacingFrom, if_neg absent]
    exact congrArg _ (ih (by rw [List.length_cons] at short; omega))

theorem replaceAll_nil_pattern : replaceAll [] replacement t = t := by
  induction t with
  | nil => rfl
  | cons c t ih => exact congrArg _ ih

/-- What is left when a pattern is taken out. -/
theorem replaceAll_nil_sublist (pattern t : Text) : (replaceAll pattern [] t).Sublist t := by
  suffices walk : ∀ skip, (replacingFrom (fun rest =>
      if pattern ≠ [] ∧ pattern.isPrefixOf rest then some (pattern.length, []) else none)
      skip t).Sublist t from walk 0
  induction t with
  | nil => exact fun skip => by cases skip <;> exact .slnil
  | cons c t ih =>
    rintro (_ | skip)
    · rw [replacingFrom]
      split
      · next found =>
        split at found
        · cases found
          exact (ih _).cons c
        · cases found
      · exact (ih 0).cons_cons c
    · exact (ih skip).cons c

section Written

variable {find : Text → Option (Nat × Text)}
  (only : ∀ rest length written, find rest = some (length, written) → written = [c])
include only

/-- Nothing but a copied part can start with a text that lacks the written character. -/
theorem prefix_of_prefix_replacingFrom (hc : c ∉ s) (h : s <+: replacingFrom find 0 text) :
    s <+: text := by
  induction text generalizing s with
  | nil => exact h
  | cons d rest ih =>
    rw [replacingFrom] at h
    cases found : find (d :: rest) with
    | some hit =>
      obtain ⟨length, written⟩ := hit
      obtain rfl := only _ _ _ found
      rw [found] at h
      have start := (prefix_append_cons_iff (s := []) hc).mp h
      rw [List.prefix_nil.mp start]
      exact List.nil_prefix
    | none =>
      rw [found] at h
      cases s with
      | nil => exact List.nil_prefix
      | cons e s =>
        obtain ⟨rfl, behind⟩ := List.cons_prefix_cons.mp h
        exact List.cons_prefix_cons.mpr
          ⟨rfl, ih (fun mem => hc (List.mem_cons_of_mem _ mem)) behind⟩

theorem infix_of_infix_replacingFrom (hc : c ∉ s) {skip : Nat}
    (h : s <:+: replacingFrom find skip text) : s <:+: text := by
  induction text generalizing skip with
  | nil => rwa [replacingFrom] at h
  | cons d rest ih =>
    cases skip with
    | succ skip => exact List.infix_cons (ih h)
    | zero =>
      -- an occurrence at the front is copied from the text, all others are found further behind
      cases found : find (d :: rest) with
      | some hit =>
        obtain ⟨length, written⟩ := hit
        obtain rfl := only _ _ _ found
        rw [replacingFrom, found] at h
        rcases List.infix_cons_iff.mp h with start | behind
        · rw [List.prefix_nil.mp ((prefix_append_cons_iff (s := []) hc).mp start)]
          exact List.nil_infix
        · exact List.infix_cons (ih behind)
      | none =>
        have start : s <+: replacingFrom find 0 (d :: rest) → s <+: d :: rest :=
          prefix_of_prefix_replacingFrom only hc
        rw [replacingFrom, found] at h start
        rcases List.infix_cons_iff.mp h with here | behind
        · exact (start here).isInfix
        · exact List.infix_cons (ih behind)

end Written

/-- **What a replacement leaves** was there before, if it lacks the written character. -/
theorem infix_of_infix_replaceAll (hc : c ∉ s) (h : s <:+: replaceAll pattern [c] text) :
    s <:+: text := by
  refine infix_of_infix_replacingFrom (fun rest length written found => ?_) hc h
  split at found
  · cases found
    rfl
  · cases found

end Seam

/-! ## The first occurrence -/

/-- A pattern without any occurrence has no first one. -/
theorem cut?_eq_none_iff : cut? pattern text = none ↔ ¬ pattern <:+: text := by
  induction text with
  | nil => simp [cut?, isPrefixOf?_eq_none_iff]
  | cons c rest ih =>
    rw [List.infix_cons_iff, not_or, ← ih, ← isPrefixOf?_eq_none_iff, cut?]
    cases pattern.isPrefixOf? (c :: rest) <;> simp

/-- What stands in front of the last character of an occurrence is a beginning of the text. -/
theorem append_dropLast_prefix (before pattern after : Text) :
    before ++ pattern.dropLast <+: before ++ pattern ++ after := by
  rw [List.append_assoc, List.prefix_append_right_inj]
  exact (List.dropLast_prefix pattern).trans (List.prefix_append _ _)

/-- **A first cut** is an occurrence of the pattern such that no other one ends before the
last character of this one. -/
theorem cut?_eq_some_iff (hne : pattern ≠ []) :
    cut? pattern text = some (before, after) ↔
      text = before ++ pattern ++ after ∧ ¬ pattern <:+: before ++ pattern.dropLast := by
  have short : ¬ pattern <:+: pattern.dropLast := fun h => by
    have := h.length_le
    have := List.length_pos_iff.mpr hne
    simp only [List.length_dropLast] at *
    omega
  induction text generalizing before with
  | nil => simp [cut?, isPrefixOf?_eq_none_iff.mpr, hne]
  | cons c rest ih =>
    rw [cut?]
    cases here : pattern.isPrefixOf? (c :: rest) with
    | some behind =>
      rw [List.isPrefixOf?_eq_some_iff_append_eq] at here
      constructor
      · rintro ⟨⟩
        exact ⟨by simp [here], short⟩
      · rintro ⟨same, first⟩
        rcases before with - | ⟨d, before⟩
        · rw [List.nil_append, ← here, List.append_cancel_left_eq] at same
          rw [same]
        · have whole : d :: before ++ pattern.dropLast <+: c :: rest := by
            rw [same]
            exact append_dropLast_prefix ..
          refine absurd (List.prefix_of_prefix_length_le ⟨behind, here⟩ whole ?_).isInfix first
          simp only [List.cons_append, List.length_cons, List.length_append,
            List.length_dropLast]
          omega
    | none =>
      rw [isPrefixOf?_eq_none_iff] at here
      simp only [Option.map_eq_some_iff, Prod.exists, Prod.mk.injEq]
      constructor
      · rintro ⟨between, behind, found, rfl, rfl⟩
        obtain ⟨same, first⟩ := ih.mp found
        refine ⟨by simp [same], ?_⟩
        rw [List.cons_append, List.infix_cons_iff, not_or]
        refine ⟨fun h => here (h.trans ?_), first⟩
        rw [same, List.prefix_cons_inj]
        exact append_dropLast_prefix ..
      · rintro ⟨same, first⟩
        rcases before with - | ⟨d, before⟩
        · exact absurd ⟨after, by simpa using same.symm⟩ here
        · simp only [List.cons_append, List.cons.injEq] at same
          obtain ⟨rfl, same⟩ := same
          rw [List.cons_append, List.infix_cons_iff, not_or] at first
          exact ⟨before, after, ih.mpr ⟨same, first.2⟩, rfl, rfl⟩

/-- A character is cut at where it stands for the first time. -/
theorem cut?_append_cons {c : Char} (absent : c ∉ before) :
    cut? [c] (before ++ c :: after) = some (before, after) := by
  refine (cut?_eq_some_iff (List.cons_ne_nil c [])).mpr ⟨by simp, ?_⟩
  intro found
  exact absent (by simpa using found.subset (List.mem_cons_self ..))

/-- No occurrence starts in front of a first cut. -/
theorem exists_eq_append_of_cut? (hne : pattern ≠ [])
    (h : cut? pattern text = some (before, after)) {s t : Text} (same : text = s ++ pattern ++ t) :
    ∃ m, s = before ++ m ∧ pattern ++ after = m ++ pattern ++ t := by
  obtain ⟨here, first⟩ := (cut?_eq_some_iff hne).mp h
  rw [here, List.append_assoc, List.append_assoc] at same
  rcases List.append_eq_append_iff.mp same with ⟨m, rfl, behind⟩ | ⟨m, rfl, behind⟩
  · exact ⟨m, rfl, by simpa using behind⟩
  · rcases m.eq_nil_or_concat with rfl | ⟨m, c, rfl⟩
    · exact ⟨[], by simp, by simpa using behind.symm⟩
    · refine absurd ?_ first
      have start : pattern <+: m.concat c ++ pattern.dropLast := by
        have whole : m.concat c ++ pattern.dropLast <+: m.concat c ++ (pattern ++ after) := by
          rw [← List.append_assoc]
          exact append_dropLast_prefix ..
        exact List.prefix_of_prefix_length_le ⟨t, behind⟩ whole (by simp; omega)
      rw [List.append_assoc]
      exact start.isInfix.trans (List.suffix_append _ _).isInfix

/-- Text behind a first cut does not matter to it. -/
theorem cut?_append (hne : pattern ≠ []) (h : cut? pattern text = some (before, after))
    (extra : Text) : cut? pattern (text ++ extra) = some (before, after ++ extra) := by
  rw [cut?_eq_some_iff hne] at h ⊢
  exact ⟨by simp [h.1], h.2⟩

/-- Text in front of a first cut that brings no earlier occurrence lengthens what stands in
front of the cut. -/
theorem cut?_append_left (hne : pattern ≠ []) {front : Text}
    (h : cut? pattern text = some (before, after))
    (quiet : ¬ pattern <:+: front ++ (before ++ pattern.dropLast)) :
    cut? pattern (front ++ text) = some (front ++ before, after) := by
  rw [cut?_eq_some_iff hne] at h ⊢
  exact ⟨by simp [h.1], by simpa using quiet⟩

/-! ## The last occurrence -/

/-- A pattern without any occurrence has no last one. -/
theorem cutLast?_eq_none_iff : cutLast? pattern text = none ↔ ¬ pattern <:+: text := by
  induction text with
  | nil => simp [cutLast?, isPrefixOf?_eq_none_iff]
  | cons c rest ih =>
    rw [List.infix_cons_iff, not_or, ← ih, ← isPrefixOf?_eq_none_iff, cutLast?]
    cases cutLast? pattern rest <;> simp

/-- **A last cut** is an occurrence of the pattern such that no other one starts behind the
first character of this one. -/
theorem cutLast?_eq_some_iff (hne : pattern ≠ []) :
    cutLast? pattern text = some (before, after) ↔
      text = before ++ pattern ++ after ∧ ¬ pattern <:+: pattern.tail ++ after := by
  induction text generalizing before with
  | nil => simp [cutLast?, isPrefixOf?_eq_none_iff.mpr, hne]
  | cons c rest ih =>
    rw [cutLast?]
    cases behind : cutLast? pattern rest with
    | some found =>
      obtain ⟨between, last⟩ := found
      have later := eq_append_of_cutLast? behind
      constructor
      · rintro ⟨⟩
        exact ⟨by simp [later], (ih.mp behind).2⟩
      · rintro ⟨same, only⟩
        rcases before with - | ⟨d, before⟩
        · refine absurd ⟨between, last, ?_⟩ only
          rw [← later]
          have := congrArg List.tail same
          rwa [List.nil_append, List.tail_append_of_ne_nil hne, List.tail_cons] at this
        · simp only [List.cons_append, List.cons.injEq] at same
          obtain ⟨rfl, same⟩ := same
          have := ih.mpr ⟨same, only⟩
          rw [behind, Option.some.injEq, Prod.mk.injEq] at this
          rw [this.1, this.2]
    | none =>
      have none_behind := cutLast?_eq_none_iff.mp behind
      simp only [Option.map_eq_some_iff, Prod.mk.injEq, List.isPrefixOf?_eq_some_iff_append_eq]
      constructor
      · rintro ⟨_, same, rfl, rfl⟩
        refine ⟨by simp [same], fun h => none_behind ?_⟩
        have shifted := congrArg List.tail same
        rw [List.tail_append_of_ne_nil hne, List.tail_cons] at shifted
        rwa [← shifted]
      · rintro ⟨same, only⟩
        rcases before with - | ⟨d, before⟩
        · exact ⟨after, by simp [same], rfl, rfl⟩
        · simp only [List.cons_append, List.cons.injEq] at same
          exact absurd ⟨before, after, same.2.symm⟩ none_behind

end Stencil.Text
