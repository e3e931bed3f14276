import Stencil.Proofs.Text.Occurrence
import Stencil.Text.Html

/-!
# Entities

A text whose markup characters are written as entities has no markup left, and no more than the text
is needed to read it again. An ampersand of the text becomes an entity itself. So entities, or
beginnings of entities, that stood in the text before are not read as such, and no entity arises
across the written forms of two characters.

## Main definitions

* `Text.entities`: the entities with the characters that they stand for
* `Text.unescapeHtml`: every entity as its character, from left to right
* `Text.IsEscaped`: without markup characters, and with ampersands in entities only

## Main results

* `Text.isEscaped_escapeHtml`: no markup is left in an escaped text
* `Text.unescapeHtml_escapeHtml`: an escaped text is read again
-/

namespace Stencil.Text

variable {s t : Text} {c : Char}

/-- The entities, each with the character that it stands for. -/
def entities : List (Text × Char) :=
  [("&amp;", '&'), ("&lt;", '<'), ("&gt;", '>'), ("&quot;", '"')]

/-- The entity at the start of a text, as its length together with its character. -/
def entityAt? (text : Text) : Option (Nat × Text) :=
  (entities.find? fun entity => entity.1.isPrefixOf text).map fun entity =>
    (entity.1.length, [entity.2])

/-- The text with every entity read as its character, from left to right. A character that was read
is not looked at again. -/
def unescapeHtml (text : Text) : Text :=
  replacing entityAt? text

/-- The characters that markup is made of. -/
def markupChars : List Char := ['<', '>', '"']

/-- No markup: neither angle brackets nor quotes, and every ampersand starts an entity. -/
structure IsEscaped (text : Text) : Prop where
  noMarkup : ∀ c ∈ markupChars, c ∉ text
  entity : ∀ before behind, text = before ++ '&' :: behind →
    ∃ entity ∈ entities, entity.1 <+: '&' :: behind

/-! ## One character -/

/-- A character is written as its entity if it has one, and else as itself. -/
theorem htmlForm_cases (c : Char) :
    (∃ entity ∈ entities, entity.2 = c ∧ htmlForm c = entity.1) ∨
      ((∀ entity ∈ entities, entity.2 ≠ c) ∧ htmlForm c = [c]) := by
  by_cases known : ∃ entity ∈ entities, entity.2 = c
  · obtain ⟨entity, mem, rfl⟩ := known
    have forms : ∀ entity ∈ entities, htmlForm entity.2 = entity.1 := by decide
    exact .inl ⟨entity, mem, rfl, forms entity mem⟩
  · push Not at known
    have other : '&' ≠ c ∧ '<' ≠ c ∧ '>' ≠ c ∧ '"' ≠ c := by simpa [entities] using known
    obtain ⟨amp, opening, closing, quote⟩ := other
    refine .inr ⟨known, ?_⟩
    rw [htmlForm, if_neg amp.symm, if_neg opening.symm, if_neg closing.symm, if_neg quote.symm]

theorem entityAt?_entity {entity : Text × Char} (mem : entity ∈ entities) (rest : Text) :
    entityAt? (entity.1 ++ rest) = some (entity.1.length, [entity.2]) := by
  simp only [entities, List.mem_cons, List.not_mem_nil, or_false] at mem
  rcases mem with rfl | rfl | rfl | rfl <;> rfl

/-- No entity starts at another character than an ampersand. -/
theorem entityAt?_cons (other : c ≠ '&') (rest : Text) : entityAt? (c :: rest) = none := by
  simp [entityAt?, entities, other.symm]

/-- The written form of a character is read as the character, whatever stands behind it. -/
theorem unescapeHtml_htmlForm_append (c : Char) (rest : Text) :
    unescapeHtml (htmlForm c ++ rest) = c :: unescapeHtml rest := by
  obtain ⟨entity, mem, rfl, form⟩ | ⟨other, form⟩ := htmlForm_cases c
  · have full : ∀ entity ∈ entities, entity.1 ≠ [] := by decide
    rw [form]
    exact replacing_append (full entity mem) (entityAt?_entity mem rest)
  · have plain : c ≠ '&' := (other ("&amp;", '&') (by decide)).symm
    rw [form, List.singleton_append, unescapeHtml, replacing, replacingFrom,
      entityAt?_cons plain]
    rfl

/-! ## Escaped texts -/

namespace IsEscaped

theorem nil : IsEscaped [] where
  noMarkup _ _ := List.not_mem_nil
  entity before behind same := by
    cases before <;> cases same

/-- Nothing arises at the seam of two texts. -/
theorem append (front : IsEscaped s) (back : IsEscaped t) : IsEscaped (s ++ t) where
  noMarkup c mem := List.not_mem_append (front.noMarkup c mem) (back.noMarkup c mem)
  entity before behind same := by
    obtain ⟨between, rfl, inBack⟩ | ⟨between, inFront, later⟩ :=
      List.append_eq_append_iff.mp same
    · exact back.entity between behind inBack
    · cases between with
      | nil => exact back.entity [] behind later.symm
      | cons d rest =>
        rw [List.cons_append, List.cons.injEq] at later
        obtain ⟨rfl, rfl⟩ := later
        obtain ⟨entity, mem, start⟩ := front.entity before rest inFront
        exact ⟨entity, mem, start.trans (List.prefix_append ('&' :: rest) t)⟩

end IsEscaped

/-- An entity has its ampersand at the start only. -/
theorem isEscaped_of_mem_entities {entity : Text × Char} (mem : entity ∈ entities) :
    IsEscaped entity.1 := by
  have clear : ∀ entity ∈ entities, (∀ c ∈ markupChars, c ∉ entity.1) ∧ '&' ∉ entity.1.tail := by
    simp [entities, markupChars]
  obtain ⟨noMarkup, once⟩ := clear entity mem
  refine ⟨noMarkup, fun before behind same => ?_⟩
  cases before with
  | nil => exact ⟨entity, mem, by rw [same]; exact List.prefix_refl _⟩
  | cons d rest =>
    rw [same] at once
    simp at once

theorem isEscaped_htmlForm (c : Char) : IsEscaped (htmlForm c) := by
  obtain ⟨entity, mem, -, form⟩ | ⟨other, form⟩ := htmlForm_cases c
  · rw [form]
    exact isEscaped_of_mem_entities mem
  · rw [form]
    have known : ∀ d ∈ '&' :: markupChars, ∃ entity ∈ entities, entity.2 = d := by
      simp [entities, markupChars]
    have absent (d : Char) (special : d ∈ '&' :: markupChars) : d ∉ [c] := fun here => by
      obtain ⟨entity, mem, rfl⟩ := known d special
      exact other entity mem (List.mem_singleton.mp here)
    refine ⟨fun d mem => absent d (List.mem_cons_of_mem _ mem), fun before behind same => ?_⟩
    exact absurd (by rw [same]; simp) (absent '&' List.mem_cons_self)

theorem escapeHtml_cons (c : Char) (text : Text) :
    escapeHtml (c :: text) = htmlForm c ++ escapeHtml text := rfl

theorem escapeHtml_append (s t : Text) : escapeHtml (s ++ t) = escapeHtml s ++ escapeHtml t :=
  List.flatMap_append

/-- **No markup is left** in an escaped text. -/
theorem isEscaped_escapeHtml (text : Text) : IsEscaped (escapeHtml text) := by
  induction text with
  | nil => exact .nil
  | cons c text ih =>
    rw [escapeHtml_cons]
    exact (isEscaped_htmlForm c).append ih

/-- **An escaped text is read again**, also if it had entities before. -/
theorem unescapeHtml_escapeHtml (text : Text) : unescapeHtml (escapeHtml text) = text := by
  induction text with
  | nil => rfl
  | cons c text ih => rw [escapeHtml_cons, unescapeHtml_htmlForm_append, ih]

theorem escapeHtml_injective : Function.Injective escapeHtml :=
  Function.LeftInverse.injective unescapeHtml_escapeHtml

end Stencil.Text
