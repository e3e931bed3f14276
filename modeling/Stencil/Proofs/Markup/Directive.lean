import Stencil.Markup.Placeholder
import Stencil.Proofs.Value.Name

/-!
# Directives as they are read

A directive written as a keyword with a content behind it is read back as the keyword and the
normalized content, whatever stands in the content. A directive that is a name or a path is read
back as it is, and asks for no kind but the simple one.

## Main definitions

* `clause keyword content`: the content of a tag that is written so

## Main results

* `splitKeyword_normalize_clause`: the keyword and the content are read back
* `Tag.ofInner_clause`, `Kind.classify_clause`: the tag, and the kind of a placeholder
* `normalize_clause`: a keyword with a plain content is its own normal form
* `normalize_word`, `Kind.classify_word`: a tag that holds a name or a path
-/

namespace Stencil.Markup

/-- The content of a tag with a keyword and a content behind it. -/
def clause (keyword content : Text) : Text := ' ' :: keyword ++ ' ' :: content ++ [' ']

/-! ## Normalized texts -/

/-- The directive with plain blanks only. -/
def spaced (directive : Text) : Text :=
  (Text.replaceAll "&#160;" " " (Text.replaceAll "&nbsp;" " " directive)).map fun c =>
    if Text.isBlank c then ' ' else c

theorem normalize_eq_trim_spaced (directive : Text) :
    normalize directive = Text.trim (spaced directive) := rfl

/-- An entity does not reach over a character that stands in none. -/
theorem spaced_append_cons_of_notMem {c : Char} (first : c ∉ "&nbsp;".toList)
    (second : c ∉ "&#160;".toList) (stays : Text.isBlank c = false) (s t : Text) :
    spaced (s ++ c :: t) = spaced s ++ c :: spaced t := by
  simp only [spaced, Text.replaceAll_append_cons first, Text.replaceAll_append_cons second,
    List.map_append, List.map_cons, stays, Bool.false_eq_true, if_false]

theorem spaced_append_cons (s t : Text) : spaced (s ++ ' ' :: t) = spaced s ++ ' ' :: spaced t := by
  have first : ' ' ∉ "&nbsp;".toList := by decide
  have second : ' ' ∉ "&#160;".toList := by decide
  simp only [spaced, Text.replaceAll_append_cons first, Text.replaceAll_append_cons second,
    List.map_append, List.map_cons]
  rfl

/-- A letter from `A` to `Z` is no blank. -/
theorem isBlank_of_isAlpha {c : Char} (h : c.isAlpha = true) : Text.isBlank c = false :=
  Text.isBlank_of_isAlphanum (by rw [Char.isAlphanum, h, Bool.true_or])

/-- A text without blanks and entities is its own spaced form. -/
theorem spaced_of_forall {text : Text} (noEntity : '&' ∉ text)
    (noBlank : ∀ c ∈ text, Text.isBlank c = false) : spaced text = text := by
  rw [spaced, Text.replaceAll_of_notMem (by decide) noEntity,
    Text.replaceAll_of_notMem (by decide) noEntity]
  refine (List.map_congr_left fun c mem => ?_).trans (List.map_id text)
  rw [noBlank c mem]
  rfl

theorem spaced_of_isAlpha {word : Text} (h : ∀ c ∈ word, c.isAlpha = true) :
    spaced word = word :=
  spaced_of_forall (fun mem => absurd (h _ mem) (by decide)) fun c mem =>
    isBlank_of_isAlpha (h c mem)

/-- A plain text without blanks at its ends is its own normal form. -/
theorem normalize_of_isTrimmed {text : Text} (ends : Text.IsTrimmed text)
    (plain : spaced text = text) : normalize text = text := by
  rw [normalize_eq_trim_spaced, plain, Text.trim_of_isTrimmed ends]

/-- A blank behind a word of letters makes it a keyword and not the beginning of a path. -/
theorem splitKeyword_append_cons {keyword : Text} (letters : ∀ c ∈ keyword, c.isAlpha = true)
    (rest : Text) : splitKeyword (keyword ++ ' ' :: rest) = (keyword, ' ' :: rest) := by
  have word : (keyword ++ ' ' :: rest).takeWhile Char.isAlpha = keyword := by
    rw [List.takeWhile_append_of_pos letters]
    simp
  have behind : (keyword ++ ' ' :: rest).dropWhile Char.isAlpha = ' ' :: rest := by
    rw [List.dropWhile_append_of_pos letters]
    simp
  have free : Text.isAlphanumeric ' ' = false := by decide +kernel
  have ended : ((' ' :: rest).head?.any fun c =>
      Text.isAlphanumeric c || c == '_' || c == '.') = false := by simp [free]
  rw [splitKeyword]
  simp only [word, behind, ended]
  rfl

/-! ## Keywords in front -/

section Clause

variable {keyword content : Text} (hne : keyword ≠ []) (letters : ∀ c ∈ keyword, c.isAlpha = true)

/-- An entity cannot reach over a blank, so the parts of a clause are spaced one by one. -/
theorem spaced_clause (letters : ∀ c ∈ keyword, c.isAlpha = true) (content : Text) :
    spaced (clause keyword content) = ' ' :: (keyword ++ ' ' :: spaced content) ++ [' '] := by
  have seams : clause keyword content =
      [] ++ ' ' :: (keyword ++ ' ' :: (content ++ ' ' :: [])) := by simp [clause]
  rw [seams, spaced_append_cons, spaced_append_cons, spaced_append_cons, spaced_of_isAlpha letters]
  simp [spaced_of_isAlpha]

include hne letters

/-- A keyword stands at the front and a trimmed content at the end. -/
theorem isTrimmed_keyword_append (filled : content ≠ []) (ends : Text.IsTrimmed content)
    (gap : Text) : Text.IsTrimmed (keyword ++ ' ' :: gap ++ content) where
  first c first := by
    obtain ⟨d, rest, rfl⟩ := List.exists_cons_of_ne_nil hne
    cases first
    exact isBlank_of_isAlpha (letters _ (List.mem_cons_self ..))
  last c last := by
    rw [List.getLast?_append_of_ne_nil _ filled] at last
    exact ends.last c last

/-- **A keyword with a trimmed content** is normalized by spacing the content. -/
theorem normalize_clause_of_isTrimmed (filled : spaced content ≠ [])
    (ends : Text.IsTrimmed (spaced content)) :
    normalize (clause keyword content) = keyword ++ ' ' :: spaced content := by
  have trimmed := isTrimmed_keyword_append hne letters filled ends []
  have blank : ∀ c ∈ [' '], Text.isBlank c = true := List.forall_mem_singleton.mpr rfl
  have same := Text.trim_append_of_isTrimmed trimmed blank blank
  rw [normalize_eq_trim_spaced, spaced_clause letters]
  simpa using same

/-- **A keyword with a plain content** is its own normal form. -/
theorem normalize_clause (filled : content ≠ []) (ends : Text.IsTrimmed content)
    (plain : spaced content = content) :
    normalize (clause keyword content) = keyword ++ ' ' :: content := by
  have same := normalize_clause_of_isTrimmed hne letters (plain.symm ▸ filled) (plain.symm ▸ ends)
  rwa [plain] at same

variable (filled : normalize content ≠ [])
include filled

/-- Blanks between the keyword and the content are all that is added to them. -/
theorem exists_normalize_clause : ∃ gap, (∀ c ∈ gap, Text.isBlank c = true) ∧
    normalize (clause keyword content) = keyword ++ ' ' :: gap ++ normalize content := by
  obtain ⟨gap, behind, hgap, hbehind, same⟩ := Text.exists_eq_trim (spaced content)
  rw [← normalize_eq_trim_spaced] at same
  have whole : spaced (clause keyword content) =
      [' '] ++ (keyword ++ ' ' :: gap ++ normalize content) ++ (behind ++ [' ']) := by
    rw [spaced_clause letters, same]
    simp
  have trimmed := isTrimmed_keyword_append hne letters filled
    (Text.isTrimmed_trim (spaced content)) gap
  refine ⟨gap, hgap, ?_⟩
  have blank : ∀ c ∈ [' '], Text.isBlank c = true := List.forall_mem_singleton.mpr rfl
  rw [normalize_eq_trim_spaced, whole]
  apply Text.trim_append_of_isTrimmed trimmed blank
  intro c mem
  rcases List.mem_append.mp mem with mem | mem
  · exact hbehind c mem
  · exact blank c mem

/-- **The keyword and the content are read back.** -/
theorem splitKeyword_normalize_clause :
    (splitKeyword (normalize (clause keyword content))).1 = keyword ∧
      Text.trim (splitKeyword (normalize (clause keyword content))).2 = normalize content := by
  obtain ⟨gap, hgap, same⟩ := exists_normalize_clause hne letters filled
  have ends := Text.isTrimmed_trim (spaced content)
  rw [← normalize_eq_trim_spaced] at ends
  have blank : ∀ c ∈ ' ' :: gap, Text.isBlank c = true :=
    List.forall_mem_cons.mpr ⟨rfl, hgap⟩
  have content_eq : Text.trim (' ' :: gap ++ normalize content ++ []) = normalize content :=
    Text.trim_append_of_isTrimmed ends blank (by simp)
  rw [List.append_nil] at content_eq
  rw [same, List.append_assoc, List.cons_append, splitKeyword_append_cons letters]
  exact ⟨rfl, content_eq⟩

/-- **The tag of a keyword** with a content behind it. -/
theorem Tag.ofInner_clause (start stop : Nat) :
    Tag.ofInner start stop (clause keyword content) =
      ⟨start, stop, Text.lower keyword, normalize content⟩ := by
  obtain ⟨word, rest⟩ := splitKeyword_normalize_clause hne letters filled
  rw [Tag.ofInner]
  simp only [word, rest]

/-- The kind that a keyword with a content behind it asks for. -/
theorem Kind.classify_clause :
    Kind.classify (normalize (clause keyword content)) =
      (Kind.ofKeyword? keyword).getD .simple := by
  obtain ⟨word, rest⟩ := splitKeyword_normalize_clause hne letters filled
  rw [Kind.classify]
  simp only [word, rest, if_neg filled]

end Clause

/-! ## Words -/

section Word

variable {word : Text} (h : Path.IsWord word)
include h

theorem spaced_word : spaced word = word :=
  spaced_of_forall (h.notMem (by decide +kernel) (by decide)) h.noBlank

/-- **A tag that holds a name or a path** has it for its directive. -/
theorem normalize_word : normalize (' ' :: word ++ [' ']) = word := by
  have seams : ' ' :: word ++ [' '] = [] ++ ' ' :: (word ++ ' ' :: []) := by simp
  have blank : ∀ c ∈ [' '], Text.isBlank c = true := List.forall_mem_singleton.mpr rfl
  have same := Text.trim_append_of_isTrimmed h.isTrimmed blank blank
  rw [normalize_eq_trim_spaced, seams, spaced_append_cons, spaced_append_cons, spaced_word h]
  simpa [spaced_of_isAlpha] using same

/-- A name or a path asks for no kind of its own. -/
theorem Kind.classify_word : Kind.classify word = .simple := by
  unfold Kind.classify splitKeyword
  cases behind : word.dropWhile Char.isAlpha with
  | nil => rfl
  | cons c rest =>
    have mem : c ∈ word := by
      apply (List.dropWhile_suffix Char.isAlpha).subset
      rw [behind]
      exact List.mem_cons_self ..
    have joined : (Text.isAlphanumeric c || c == '_' || c == '.') = true := by
      rw [Bool.or_eq_true, beq_iff_eq]
      exact h.plain c mem
    have none : (Kind.ofKeyword? []).getD .simple = .simple := rfl
    simp [joined, none]

end Word

end Stencil.Markup
