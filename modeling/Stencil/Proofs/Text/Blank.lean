import Mathlib.Data.List.DropRight
import Stencil.Proofs.Text.Occurrence
import Stencil.Text.Blank

/-!
# Trimmed texts

A text is trimmed by taking away the blanks at its ends. What is left is determined by its place
between blanks.

## Main definitions

* `IsTrimmed text`: no blank stands at an end of the text

## Main results

* `exists_eq_trim`: a text is its trimmed form with blanks around it
* `trim_append_of_isTrimmed`: a trimmed text is found between blanks
-/

namespace Stencil.Text

/-- No blank stands at an end of the text. -/
structure IsTrimmed (text : Text) : Prop where
  first : ∀ c, text.head? = some c → isBlank c = false
  last : ∀ c, text.getLast? = some c → isBlank c = false

variable {text front back : Text}

theorem isTrimmed_nil : IsTrimmed [] where
  first _ first := by cases first
  last _ last := by cases last

theorem dropWhile_append_of_isTrimmed (h : IsTrimmed text) (hne : text ≠ [])
    (hfront : ∀ c ∈ front, isBlank c = true) (back : Text) :
    (front ++ text ++ back).dropWhile isBlank = text ++ back := by
  obtain ⟨c, rest, rfl⟩ := List.exists_cons_of_ne_nil hne
  have stays := h.first c rfl
  rw [List.append_assoc, List.dropWhile_append_of_pos hfront, List.cons_append,
    List.dropWhile_cons_of_neg (by simp [stays])]

/-- A trimmed text is found between blanks. -/
theorem trim_append_of_isTrimmed (h : IsTrimmed text) (hfront : ∀ c ∈ front, isBlank c = true)
    (hback : ∀ c ∈ back, isBlank c = true) : trim (front ++ text ++ back) = text := by
  rcases eq_or_ne text [] with rfl | hne
  · have blank : ∀ c ∈ front ++ [] ++ back, isBlank c = true := by
      simpa [or_imp, forall_and] using ⟨hfront, hback⟩
    rw [trim, trimBy, List.dropWhile_eq_nil_iff.mpr blank]
    rfl
  · -- the second drop is the first one on the reversed text
    have reversed : IsTrimmed text.reverse :=
      ⟨fun c first => h.last c (by rwa [List.head?_reverse] at first),
        fun c last => h.first c (by rwa [List.getLast?_reverse] at last)⟩
    have hback' : ∀ c ∈ back.reverse, isBlank c = true := by simpa using hback
    have behind := dropWhile_append_of_isTrimmed reversed (by simpa using hne) hback' []
    rw [List.append_nil, List.append_nil] at behind
    rw [trim, trimBy, dropWhile_append_of_isTrimmed h hne hfront, List.reverse_append, behind,
      List.reverse_reverse]

theorem trim_of_isTrimmed (h : IsTrimmed text) : trim text = text := by
  have same : trim ([] ++ text ++ []) = text := trim_append_of_isTrimmed h (by simp) (by simp)
  rwa [List.nil_append, List.append_nil] at same

theorem trim_cons_of_isTrimmed {c : Char} (h : IsTrimmed text) (blank : isBlank c = true) :
    trim (c :: text) = text := by
  have same : trim ([c] ++ text ++ []) = text :=
    trim_append_of_isTrimmed h (List.forall_mem_singleton.mpr blank) (List.forall_mem_nil _)
  rwa [List.append_nil] at same

theorem trim_concat_of_isTrimmed {c : Char} (h : IsTrimmed text) (blank : isBlank c = true) :
    trim (text ++ [c]) = text := by
  have same : trim ([] ++ text ++ [c]) = text :=
    trim_append_of_isTrimmed h (List.forall_mem_nil _) (List.forall_mem_singleton.mpr blank)
  rwa [List.nil_append] at same

theorem isTrimmed_trim (text : Text) : IsTrimmed (trim text) where
  first c first := by
    have start : trim text <+: text.dropWhile isBlank := List.rdropWhile_prefix isBlank _
    obtain ⟨rest, same⟩ := List.head?_eq_some_iff.mp first
    obtain ⟨more, whole⟩ := start
    have head : (text.dropWhile isBlank).head? = some c := by rw [← whole, same]; rfl
    have := List.head?_dropWhile_not isBlank text
    rw [head] at this
    simpa using this
  last c last := by
    have := List.head?_dropWhile_not isBlank (text.dropWhile isBlank).reverse
    rw [trim, trimBy, List.getLast?_reverse] at last
    rw [last] at this
    simpa using this

/-- **A text is its trimmed form** with blanks around it. -/
theorem exists_eq_trim (text : Text) :
    ∃ front back, (∀ c ∈ front, isBlank c = true) ∧ (∀ c ∈ back, isBlank c = true) ∧
      text = front ++ trim text ++ back := by
  refine ⟨text.takeWhile isBlank, (text.dropWhile isBlank).rtakeWhile isBlank, ?_, ?_, ?_⟩
  · exact fun c mem => List.mem_takeWhile_imp mem
  · exact fun c mem => List.mem_rtakeWhile_imp mem
  · have behind : trim text ++ (text.dropWhile isBlank).rtakeWhile isBlank =
        text.dropWhile isBlank := List.rdropWhile_append_rtakeWhile
    rw [List.append_assoc, behind, List.takeWhile_append_dropWhile]

theorem mem_of_mem_trim {c : Char} (mem : c ∈ trim text) : c ∈ text := by
  obtain ⟨front, back, -, -, same⟩ := exists_eq_trim text
  rw [same]
  exact List.mem_append_left _ (List.mem_append_right _ mem)

/-- A character that is no blank is left. -/
theorem trim_ne_nil {c : Char} (mem : c ∈ text) (stays : isBlank c = false) : trim text ≠ [] := by
  intro empty
  obtain ⟨left, right, hleft, hright, same⟩ := exists_eq_trim text
  rw [empty, List.append_nil] at same
  rw [same] at mem
  have blank : isBlank c = true := (List.mem_append.mp mem).elim (hleft c) (hright c)
  rw [stays] at blank
  cases blank

end Stencil.Text
