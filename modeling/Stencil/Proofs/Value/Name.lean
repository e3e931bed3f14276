import Stencil.Proofs.Text.Blank
import Stencil.Proofs.Text.Nesting
import Stencil.Proofs.Text.Parts
import Stencil.Value.Path

/-!
# Names and paths are words

A name and a path of names are made of letters, digits, underscores and dots. None of these is
a blank, and none has a meaning of its own in a directive or in a pipeline, so a name or a path
stays together wherever it is read.

## Main definitions

* `Path.IsWord word`: nothing but name characters and dots

## Main results

* `Text.isBlank_of_isAlphanumeric`: letters and digits are no blanks
* `Path.isWord_of_isIdentifier`, `Path.isWord_of_isDotted`: names and paths are words
-/

namespace Stencil

/-! ## Letters and digits are no blanks -/

namespace Text

theorem inRanges_iff {ranges : Array (Nat × Nat)} {n : Nat} :
    inRanges ranges n = true ↔ ∃ range ∈ ranges.toList, range.1 ≤ n ∧ n ≤ range.2 := by
  rw [inRanges, ← Array.any_toList, List.any_eq_true]
  simp

/-- The codes of the blanks. -/
def blankRanges : List (Nat × Nat) :=
  [(0x9, 0xD), (0x20, 0x20), (0x85, 0x85), (0xA0, 0xA0), (0x1680, 0x1680), (0x2000, 0x200A),
    (0x2028, 0x2029), (0x202F, 0x202F), (0x205F, 0x205F), (0x3000, 0x3000)]

theorem exists_blankRange {c : Char} (h : isBlank c = true) :
    ∃ range ∈ blankRanges, range.1 ≤ c.toNat ∧ c.toNat ≤ range.2 := by
  simp only [isBlank, Bool.or_eq_true, Bool.and_eq_true, decide_eq_true_eq, beq_iff_eq] at h
  simp only [blankRanges, List.exists_mem_cons_iff, List.not_mem_nil, false_and, exists_false,
    or_false]
  omega

/-- Whether two ranges have no number in common. -/
def areApart (a b : Nat × Nat) : Bool := decide (a.2 < b.1) || decide (b.2 < a.1)

/-- A code is no blank if it lies in one of the ranges of a table that holds no blank. -/
theorem isBlank_of_inRanges {ranges : Array (Nat × Nat)} {c : Char}
    (apart : ranges.toList.all (fun range => blankRanges.all (areApart range)) = true)
    (h : inRanges ranges c.toNat = true) : isBlank c = false := by
  rw [Bool.eq_false_iff]
  intro blank
  obtain ⟨range, hrange, low, high⟩ := inRanges_iff.mp h
  obtain ⟨other, hother, low', high'⟩ := exists_blankRange blank
  have apart := List.all_eq_true.mp (List.all_eq_true.mp apart range hrange) other hother
  simp only [areApart, Bool.or_eq_true, decide_eq_true_eq] at apart
  omega

/-- The codes of letters from `A` to `Z` and of digits. -/
theorem code_of_isAlphanum {c : Char} (h : c.isAlphanum = true) :
    (65 ≤ c.toNat ∧ c.toNat ≤ 90) ∨ (97 ≤ c.toNat ∧ c.toNat ≤ 122) ∨
      (48 ≤ c.toNat ∧ c.toNat ≤ 57) := by
  have upper (h : c.isUpper = true) : 65 ≤ c.toNat ∧ c.toNat ≤ 90 := of_decide_eq_true h
  have lower (h : c.isLower = true) : 97 ≤ c.toNat ∧ c.toNat ≤ 122 :=
    (Bool.and_eq_true_iff.mp h).imp of_decide_eq_true of_decide_eq_true
  have digit (h : c.isDigit = true) : 48 ≤ c.toNat ∧ c.toNat ≤ 57 :=
    (Bool.and_eq_true_iff.mp h).imp of_decide_eq_true of_decide_eq_true
  rcases Bool.or_eq_true_iff.mp h with letter | number
  · exact (Bool.or_eq_true_iff.mp letter).imp upper (fun h => Or.inl (lower h))
  · exact Or.inr (Or.inr (digit number))

theorem isBlank_of_isAlphanum {c : Char} (h : c.isAlphanum = true) : isBlank c = false := by
  have codes := code_of_isAlphanum h
  rw [Bool.eq_false_iff]
  intro blank
  simp only [isBlank, Bool.or_eq_true, Bool.and_eq_true, decide_eq_true_eq, beq_iff_eq] at blank
  omega

/-- **Letters and digits are no blanks.** -/
theorem isBlank_of_isAlphanumeric {c : Char} (h : isAlphanumeric c = true) :
    isBlank c = false := by
  unfold isAlphanumeric at h
  by_cases small : c.toNat < 128
  · rw [if_pos small] at h
    exact isBlank_of_isAlphanum h
  · rw [if_neg small, Bool.or_eq_true] at h
    rcases h with h | h
    · exact isBlank_of_inRanges (by decide +kernel) h
    · exact isBlank_of_inRanges (by decide +kernel) h

end Text

/-! ## Words -/

namespace Path

theorem isBlank_of_isNameCharacter {c : Char} (h : isNameCharacter c = true) :
    Text.isBlank c = false := by
  rw [isNameCharacter, Bool.or_eq_true] at h
  rcases h with h | h
  · exact Text.isBlank_of_isAlphanumeric h
  · rw [eq_of_beq h]
    rfl

/-- The text consists of name characters and dots. -/
structure IsWord (word : Text) : Prop where
  nonempty : word ≠ []
  plain : ∀ c ∈ word, isNameCharacter c = true ∨ c = '.'

namespace IsWord

variable {word : Text} (h : IsWord word)
include h

theorem noBlank : ∀ c ∈ word, Text.isBlank c = false := by
  intro c mem
  rcases h.plain c mem with name | rfl
  · exact isBlank_of_isNameCharacter name
  · rfl

theorem isTrimmed : Text.IsTrimmed word where
  first c first := h.noBlank c (List.mem_of_mem_head? first)
  last c last := h.noBlank c (List.mem_of_getLast? last)

theorem words_eq : Text.words word = [word] := Text.words_of_forall h.noBlank h.nonempty

/-- A character that has a meaning of its own stands in no word. -/
theorem notMem {c : Char} (other : isNameCharacter c = false) (noDot : c ≠ '.') : c ∉ word := by
  intro mem
  rcases h.plain c mem with name | dot
  · rw [other] at name
    cases name
  · exact noDot dot

theorem noOpening : '{' ∉ word := h.notMem (by decide +kernel) (by decide)

theorem noClosing : '}' ∉ word := h.notMem (by decide +kernel) (by decide)

theorem isBare : Text.IsBare word := by
  intro c mem
  have other {d : Char} (hd : isNameCharacter d = false) (noDot : d ≠ '.') : c ≠ d :=
    ne_of_mem_of_not_mem mem (h.notMem hd noDot)
  have quotes : c ≠ '"' ∧ c ≠ '\'' :=
    ⟨other (by decide +kernel) (by decide), other (by decide +kernel) (by decide)⟩
  exact ⟨other (by decide +kernel) (by decide), by simp [Text.isQuote, quotes],
    other (by decide +kernel) (by decide), other (by decide +kernel) (by decide)⟩

end IsWord

theorem isNameCharacter_of_isIdentifier {word : Text} (h : isIdentifier word = true) :
    ∀ c ∈ word, isNameCharacter c = true := by
  cases word with
  | nil => cases h
  | cons c rest =>
    rw [isIdentifier, Bool.and_eq_true, Bool.or_eq_true] at h
    refine List.forall_mem_cons.mpr ⟨?_, List.all_eq_true.mp h.2⟩
    rw [isNameCharacter, Bool.or_eq_true]
    exact h.1.imp_left Text.isAlphanumeric_of_isAlphabetic

/-- A name has no dots, so it is one part. -/
theorem segments_of_isIdentifier {name : Text} (h : isIdentifier name = true) :
    segments name = [name] := by
  refine Text.split_of_forall fun c mem => ?_
  rw [beq_eq_false_iff_ne]
  rintro rfl
  exact absurd (isNameCharacter_of_isIdentifier h '.' mem) (by decide +kernel)

/-- **A name is a word.** -/
theorem isWord_of_isIdentifier {word : Text} (h : isIdentifier word = true) : IsWord word where
  nonempty := by
    rintro rfl
    cases h
  plain c mem := .inl (isNameCharacter_of_isIdentifier h c mem)

/-- **A path of names is a word.** -/
theorem isWord_of_isDotted {word : Text} (h : isDotted word = true) : IsWord word where
  nonempty := by
    rintro rfl
    cases h
  plain c mem := by
    by_cases dot : c = '.'
    · exact .inr dot
    · left
      obtain ⟨part, hpart, found⟩ : ∃ part ∈ segments word, c ∈ part :=
        Text.exists_mem_split mem (by simpa using dot)
      unfold isDotted at h
      split at h
      · next first next rest same =>
        rw [Bool.and_eq_true, List.all_eq_true] at h
        rw [same] at hpart
        rcases List.mem_cons.mp hpart with rfl | hpart
        · exact isNameCharacter_of_isIdentifier h.1 c found
        · have names := h.2 part hpart
          rw [Bool.and_eq_true, List.all_eq_true] at names
          exact names.2 c found
      · cases h

end Path

end Stencil
