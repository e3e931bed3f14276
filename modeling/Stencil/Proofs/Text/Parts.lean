import Mathlib.Data.List.Infix
import Stencil.Text.Blank

/-!
# Parts of a text

A text is cut at every separator, so the parts of two texts with a separator between them are
those of the one followed by those of the other. Parts without separators are found again in the
text that they are joined to. Words are the parts between blanks.

## Main results

* `mem_of_mem_split`, `exists_mem_split`: the characters of the parts
* `split_append_cons`: the parts on both sides of a separator
* `split_join`: parts without separators are those of the joined text
* `words_append_cons`: the words on both sides of a blank
-/

namespace Stencil.Text

variable {isSeparator : Char → Bool} {text front rest part : Text} {c : Char}

/-! ## Parts between separators -/

theorem split_ne_nil (isSeparator : Char → Bool) (text : Text) : split isSeparator text ≠ [] := by
  fun_induction split isSeparator text <;> simp

/-- A part holds no separator. -/
theorem eq_false_of_mem_split (h : part ∈ split isSeparator text) :
    ∀ c ∈ part, isSeparator c = false := by
  fun_induction split isSeparator text generalizing part with
  | case1 =>
    rw [List.mem_singleton] at h
    simp [h]
  | case2 c rest separates ih =>
    rcases List.mem_cons.mp h with rfl | h
    · simp
    · exact ih h
  | case3 c rest stays none ih =>
    rw [List.mem_singleton] at h
    simp [h, stays]
  | case4 c rest stays first parts same ih =>
    rw [same] at ih
    rcases List.mem_cons.mp h with rfl | h
    · intro d hd
      rcases List.mem_cons.mp hd with rfl | hd
      · exact Bool.eq_false_iff.mpr stays
      · exact ih (List.mem_cons_self ..) d hd
    · exact ih (List.mem_cons_of_mem _ h)

/-- Every character that is no separator stands in a part. -/
theorem exists_mem_split (h : c ∈ text) (stays : isSeparator c = false) :
    ∃ part ∈ split isSeparator text, c ∈ part := by
  fun_induction split isSeparator text with
  | case1 => cases h
  | case2 d rest separates ih =>
    rcases List.mem_cons.mp h with rfl | h
    · rw [stays] at separates
      cases separates
    · obtain ⟨part, mem, found⟩ := ih h
      exact ⟨part, List.mem_cons_of_mem _ mem, found⟩
  | case3 d rest _ none ih => exact absurd none (split_ne_nil _ _)
  | case4 d rest _ first parts same ih =>
    rcases List.mem_cons.mp h with rfl | h
    · exact ⟨c :: first, List.mem_cons_self .., List.mem_cons_self ..⟩
    · obtain ⟨part, mem, found⟩ := ih h
      rw [same] at mem
      rcases List.mem_cons.mp mem with rfl | mem
      · exact ⟨d :: part, List.mem_cons_self .., List.mem_cons_of_mem _ found⟩
      · exact ⟨part, List.mem_cons_of_mem _ mem, found⟩

theorem mem_of_mem_split (h : part ∈ split isSeparator text) (mem : c ∈ part) : c ∈ text := by
  fun_induction split isSeparator text generalizing part with
  | case1 =>
    rw [List.mem_singleton.mp h] at mem
    cases mem
  | case2 d rest separates ih =>
    rcases List.mem_cons.mp h with rfl | h
    · cases mem
    · exact List.mem_cons_of_mem d (ih h mem)
  | case3 d rest _ none ih => exact absurd none (split_ne_nil _ _)
  | case4 d rest _ first parts same ih =>
    rw [same] at ih
    rcases List.mem_cons.mp h with rfl | h
    · rcases List.mem_cons.mp mem with rfl | mem
      · exact List.mem_cons_self ..
      · exact List.mem_cons_of_mem d (ih (List.mem_cons_self ..) mem)
    · exact List.mem_cons_of_mem d (ih (List.mem_cons_of_mem _ h) mem)

/-- A text that is not cut is its only part. -/
theorem eq_of_split_eq_singleton (h : split isSeparator text = [part]) : part = text := by
  fun_induction split isSeparator text generalizing part with
  | case1 => exact (List.singleton_inj.mp h).symm
  | case2 d rest separates ih => exact absurd (List.cons.inj h).2 (split_ne_nil _ _)
  | case3 d rest _ none ih => exact absurd none (split_ne_nil _ _)
  | case4 d rest _ first parts same ih =>
    obtain ⟨rfl, rfl⟩ := List.cons.inj h
    rw [ih same]

/-- The first part begins as the text does, unless a separator stands there. -/
theorem head?_of_split {others : List Text} (h : split isSeparator text = part :: others) :
    part.head? = text.head?.filter fun c => !isSeparator c := by
  cases text with
  | nil =>
    cases h
    rfl
  | cons c rest =>
    rw [split] at h
    split at h
    · next separates =>
      cases h
      simp [Option.filter_some, separates]
    · next stays =>
      split at h <;> cases h <;> simp [Option.filter_some, stays]

theorem split_of_forall (h : ∀ c ∈ text, isSeparator c = false) :
    split isSeparator text = [text] := by
  induction text with
  | nil => rfl
  | cons c rest ih =>
    obtain ⟨here, later⟩ := List.forall_mem_cons.mp h
    rw [split, here, ih later, if_neg Bool.false_ne_true]

/-- **The parts on both sides of a separator.** -/
theorem split_append_cons (hc : isSeparator c = true) (front rest : Text) :
    split isSeparator (front ++ c :: rest) = split isSeparator front ++ split isSeparator rest := by
  induction front with
  | nil => simp [split, hc]
  | cons d front ih =>
    rw [List.cons_append, split, split, ih]
    by_cases hd : isSeparator d = true
    · rw [if_pos hd, if_pos hd, List.cons_append]
    · rw [if_neg hd, if_neg hd]
      obtain ⟨first, others, same⟩ := List.exists_cons_of_ne_nil (split_ne_nil isSeparator front)
      simp only [same, List.cons_append]

/-- **Parts without separators** are those of the joined text. -/
theorem split_join (hc : isSeparator c = true) {parts : List Text} (ne : parts ≠ [])
    (h : ∀ part ∈ parts, ∀ d ∈ part, isSeparator d = false) :
    split isSeparator (join [c] parts) = parts := by
  induction parts with
  | nil => exact absurd rfl ne
  | cons first others ih =>
    obtain ⟨here, later⟩ := List.forall_mem_cons.mp h
    cases others with
    | nil => simpa [join] using split_of_forall here
    | cons second others =>
      have joined : join [c] (first :: second :: others) =
          first ++ c :: join [c] (second :: others) := by
        simp [join, List.intercalate]
      rw [joined, split_append_cons hc, split_of_forall here, ih (List.cons_ne_nil _ _) later,
        List.singleton_append]

/-- A character of a joined text is one of a part or of the separator. -/
theorem mem_of_mem_join {separator : Text} {parts : List Text} (mem : c ∈ join separator parts) :
    c ∈ separator ∨ ∃ part ∈ parts, c ∈ part := by
  induction parts with
  | nil => cases mem
  | cons first others ih =>
    rw [List.exists_mem_cons_iff]
    by_cases alone : others = []
    · rw [alone, join, List.intercalate_singleton] at mem
      exact .inr (.inl mem)
    · rw [join, List.intercalate_cons_of_ne_nil alone, List.mem_append, List.mem_append] at mem
      obtain (here | between) | later := mem
      · exact .inr (.inl here)
      · exact .inl between
      · exact (ih later).imp_right .inr

/-! ## Words -/

/-- A text without blanks is one word. -/
theorem words_of_forall (h : ∀ c ∈ text, isBlank c = false) (ne : text ≠ []) :
    words text = [text] := by
  rw [words, split_of_forall h]
  simp [ne]

/-- **The words on both sides of a blank.** -/
theorem words_append_cons (hc : isBlank c = true) (front rest : Text) :
    words (front ++ c :: rest) = words front ++ words rest := by
  rw [words, split_append_cons hc, List.filter_append]
  rfl

end Stencil.Text
