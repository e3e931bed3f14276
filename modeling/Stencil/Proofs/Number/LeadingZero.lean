import Mathlib.Data.List.Basic
import Stencil.Value.Display

/-!
# Leading zeros

Codes such as `0123` are kept digit by digit. A text with a leading zero spells no number, and no
number is written as such a text.

## Main definitions

* `Text.isZeroLed digits`: a zero stands in front of another digit
* `Text.hasLeadingZero text`: so it does behind an optional minus sign

## Main results

* `Number.literal?_of_hasLeadingZero`: a text with a leading zero spells no number
* `Number.hasLeadingZero_display`: no number is displayed with a leading zero
-/

namespace Stencil

/-! ## Texts with a leading zero -/

namespace Text

/-- Whether a text begins with a zero and another digit behind it. -/
def isZeroLed : Text → Bool
  | '0' :: next :: _ => next.isDigit
  | _ => false

/-- Whether a text begins, behind an optional minus sign, with a zero and another digit. -/
def hasLeadingZero : Text → Bool
  | '-' :: digits => isZeroLed digits
  | digits => isZeroLed digits

theorem exists_of_isZeroLed {digits : Text} (h : isZeroLed digits = true) :
    ∃ next rest, next.isDigit = true ∧ digits = '0' :: next :: rest := by
  unfold isZeroLed at h
  split at h
  · next next rest => exact ⟨next, rest, h, rfl⟩
  · contradiction

theorem isZeroLed_of_head? {digits : Text} (h : digits.head? ≠ some '0') :
    isZeroLed digits = false := by
  rw [Bool.eq_false_iff]
  intro led
  obtain ⟨next, rest, -, rfl⟩ := exists_of_isZeroLed led
  exact h rfl

theorem hasLeadingZero_of_head? {digits : Text} (h : digits.head? ≠ some '-') :
    hasLeadingZero digits = isZeroLed digits := by
  unfold hasLeadingZero
  split
  · exact absurd rfl h
  · rfl

/-! ## Padding -/

theorem padLeft_of_le {width : Nat} {text : Text} (padding : Char) (h : width ≤ text.length) :
    padLeft width padding text = text := by
  rw [padLeft, Nat.sub_eq_zero_of_le h, List.replicate_zero, List.nil_append]

theorem padLeft_of_lt {width : Nat} {text : Text} (padding : Char) (h : text.length < width) :
    ∃ rest, padLeft width padding text = padding :: rest ∧ rest.length + 1 = width := by
  obtain ⟨missing, hmissing⟩ := Nat.exists_eq_add_of_lt h
  refine ⟨List.replicate missing padding ++ text, ?_, ?_⟩
  · have more : width - text.length = missing + 1 := by omega
    rw [padLeft, more, List.replicate_succ, List.cons_append]
  · rw [List.length_append, List.length_replicate]
    omega

/-! ## Decimal digits -/

theorem ofNat_eq_if (n : Nat) :
    ofNat n = if n < 10 then [n.digitChar] else ofNat (n / 10) ++ [(n % 10).digitChar] :=
  Nat.toDigits_eq_if (by omega)

theorem ofNat_ne_nil (n : Nat) : ofNat n ≠ [] := Nat.toDigits_ne_nil

/-- The digits of a positive number do not begin with a zero. -/
theorem head?_ofNat_ne_zero {n : Nat} (positive : 0 < n) : (ofNat n).head? ≠ some '0' := by
  induction n using Nat.strongRecOn with
  | ind n ih =>
    rw [ofNat_eq_if]
    by_cases small : n < 10
    · rw [if_pos small, List.head?_cons, Ne, Option.some.injEq, Nat.digitChar_eq_zero]
      omega
    · rw [if_neg small, List.head?_append_of_ne_nil _ (ofNat_ne_nil _)]
      exact ih (n / 10) (by omega) (by omega)

theorem isZeroLed_ofNat (n : Nat) : isZeroLed (ofNat n) = false := by
  by_cases positive : 0 < n
  · exact isZeroLed_of_head? (head?_ofNat_ne_zero positive)
  · obtain rfl : n = 0 := by omega
    rfl

theorem head?_ofNat_ne_minus (n : Nat) : (ofNat n).head? ≠ some '-' := by
  intro minus
  have digit := Nat.isDigit_of_mem_toDigits (by omega) (by omega) (List.mem_of_head? minus)
  exact absurd digit (by decide)

end Text

/-! ## Written numbers -/

namespace Decimal

/-- With places behind the point, either a zero is filled in alone in front of the point, or the
digits of a positive number begin there. -/
theorem text_of_places {d : Decimal} (fraction : 0 < d.places) :
    (∃ rest, d.text = '0' :: '.' :: rest) ∨
      (0 < d.digits ∧ d.text.head? = (Text.ofNat d.digits).head?) := by
  rw [text, if_neg (by omega)]
  by_cases few : (Text.ofNat d.digits).length < d.places.toNat + 1
  · left
    obtain ⟨rest, padded, length⟩ := Text.padLeft_of_lt '0' few
    have whole : ('0' :: rest).length - d.places.toNat = 1 := by
      rw [List.length_cons]
      omega
    exact ⟨rest, by simp only [padded, whole, List.take_succ_cons, List.take_zero,
      List.drop_succ_cons, List.drop_zero, List.cons_append, List.nil_append]⟩
  · right
    have enough : d.places.toNat + 1 ≤ (Text.ofNat d.digits).length := by omega
    refine ⟨?_, ?_⟩
    · by_contra none
      have zero : d.digits = 0 := by omega
      have single : (Text.ofNat d.digits).length = 1 := by
        rw [zero]
        rfl
      omega
    · have front : (Text.ofNat d.digits).take
          ((Text.ofNat d.digits).length - d.places.toNat) ≠ [] := by
        rw [Ne, List.take_eq_nil_iff, not_or]
        exact ⟨by omega, Text.ofNat_ne_nil _⟩
      simp only [Text.padLeft_of_le '0' enough]
      rw [List.head?_append_of_ne_nil _ front, List.head?_take, if_neg (by omega)]

/-- **A decimal is written without a leading zero**, and without a sign. -/
theorem text_plain (d : Decimal) :
    Text.isZeroLed d.text = false ∧ d.text.head? ≠ some '-' := by
  by_cases whole : d.places ≤ 0
  · rw [text, if_pos whole]
    exact ⟨Text.isZeroLed_ofNat _, Text.head?_ofNat_ne_minus _⟩
  · have fraction : 0 < d.places := by omega
    rcases text_of_places fraction with ⟨rest, small⟩ | ⟨positive, same⟩
    · rw [small]
      exact ⟨rfl, by simp⟩
    · refine ⟨Text.isZeroLed_of_head? ?_, ?_⟩
      · rw [same]
        exact Text.head?_ofNat_ne_zero positive
      · rw [same]
        exact Text.head?_ofNat_ne_minus _

end Decimal

namespace Number

/-- A sign makes no leading zero. -/
theorem hasLeadingZero_signText_append (x : Number) {digits : Text}
    (plain : Text.isZeroLed digits = false ∧ digits.head? ≠ some '-') :
    Text.hasLeadingZero (x.signText ++ digits) = false := by
  obtain ⟨notLed, noSign⟩ := plain
  rw [signText]
  split
  · exact notLed
  · rw [List.nil_append, Text.hasLeadingZero_of_head? noSign]
    exact notLed

theorem hasLeadingZero_text (x : Number) : Text.hasLeadingZero x.text = false := by
  rw [text]
  split
  · rfl
  · split
    · exact hasLeadingZero_signText_append x ⟨rfl, by decide⟩
    · split
      · exact hasLeadingZero_signText_append x ⟨rfl, by decide⟩
      · exact hasLeadingZero_signText_append x (Decimal.text_plain _)

theorem hasLeadingZero_integerText (n : Int) : Text.hasLeadingZero (integerText n) = false := by
  rw [integerText]
  split
  · exact Text.isZeroLed_ofNat _
  · rw [Text.hasLeadingZero_of_head? (Text.head?_ofNat_ne_minus _)]
    exact Text.isZeroLed_ofNat _

/-- **No number is displayed with a leading zero.** -/
theorem hasLeadingZero_display (x : Number) : Text.hasLeadingZero x.display = false := by
  rw [display]
  split
  · exact hasLeadingZero_text _
  · split
    · exact hasLeadingZero_text _
    · split
      · exact hasLeadingZero_integerText _
      · exact hasLeadingZero_text _

theorem display_ne_of_hasLeadingZero {text : Text} (zero : text.hasLeadingZero = true)
    (x : Number) : x.display ≠ text := by
  rintro rfl
  rw [hasLeadingZero_display] at zero
  contradiction

/-- **A text with a leading zero spells no number.** -/
theorem literal?_of_hasLeadingZero {text : Text} (zero : text.hasLeadingZero = true) :
    literal? text = none := by
  unfold Text.hasLeadingZero at zero
  split at zero
  · obtain ⟨next, rest, digit, rfl⟩ := Text.exists_of_isZeroLed zero
    simp [literal?, digit]
  · obtain ⟨next, rest, digit, rfl⟩ := Text.exists_of_isZeroLed zero
    simp [literal?, digit]

end Number

end Stencil
