import Stencil.Directive.Basic
import Stencil.Proofs.Number.Grouped
import Stencil.Proofs.Number.Settled

/-!
# Rounding what is rounded

Rounding turns a number into a text, which is then read with the same separators. Two things can
come between. The count of last places can have 52 bits, so that the product by which the places are
counted is off by a half; and the decimal point can have the thousands separator within itself, so
that the places run into the digits in front of them or are read as an exponent. Otherwise the same
number is read and written again, or no number is read at all and the text stays.

## Main definitions

* `Directive.spelled?`: the number that a value spells
* `Directive.wantedPlaces`, `wantedPoint`, `wantedThousands`: what the arguments of a rounding say

## Main results

* `Directive.rounded_grouped`: a text of a settled number is rounded to itself
* `Directive.round_again`: rounding is idempotent apart from the two cases
* `Directive.rounding_again_differs`: in both cases it is not
-/

namespace Stencil.Directive

variable {point thousands : Text} {value : Value} {n : Number} {wanted : Nat}

/-! ## Reading a value as a number -/

/-- The number that rounding starts from: a number itself, or else what the display of a value spells
with given separators. -/
def spelled? (point thousands : Text) : Value → Option Number
  | .number n => some n
  | value => Number.ofLocalText? point thousands value.display

theorem rounded_eq (value : Value) (wanted : Nat) (point thousands : Text) :
    rounded value wanted point thousands =
      match spelled? point thousands value with
      | some n => .text (n.grouped wanted point thousands)
      | none => value := by
  cases value <;> rfl

theorem rounded_of_spelled? (spelled : spelled? point thousands value = some n) :
    rounded value wanted point thousands = .text (n.grouped wanted point thousands) := by
  rw [rounded_eq, spelled]

theorem rounded_of_unspelled (unspelled : spelled? point thousands value = none) :
    rounded value wanted point thousands = value := by
  rw [rounded_eq, unspelled]

/-! ## Rounding twice -/

/-- **The text of a settled number is rounded to itself**, even if no number is read from it. -/
theorem rounded_grouped
    (settled : Number.Settled (min wanted Number.maxPlaces)
      (n.roundTo (min wanted Number.maxPlaces)).magnitude)
    (hpoint : point ≠ []) (separator : Text.IsSeparator point)
    (separator' : Text.IsSeparator thousands)
    (clear : min wanted Number.maxPlaces = 0 ∨
      Number.pointMark point thousands ∉ Decimal.ambiguousMarks) :
    rounded (.text (n.grouped wanted point thousands)) wanted point thousands =
      .text (n.grouped wanted point thousands) := by
  generalize rounded_eq : n.roundTo (min wanted Number.maxPlaces) = r at settled
  obtain ⟨negative, magnitude⟩ := r
  obtain ⟨whole, fraction, spells, grouped_eq⟩ :=
    Number.exists_grouped settled.finite wanted point thousands
  rw [grouped_eq n negative rounded_eq]
  by_cases plain : min wanted Number.maxPlaces = 0 ∨ Number.pointMark point thousands = ['.']
  · have finite : Number.isFinite ⟨negative && magnitude != 0, magnitude⟩ = true :=
      Number.isFinite_iff.mpr settled.finite
    have read := Number.ofLocalText?_of_point spells hpoint separator separator'
      (negative && magnitude != 0) plain
    rw [settled.reread, Option.filter_some, if_pos finite] at read
    have spelled : spelled? point thousands (.text (Number.localText point thousands
        (negative && magnitude != 0) whole fraction)) = some ⟨negative && magnitude != 0, magnitude⟩ :=
      read
    rw [rounded_of_spelled? spelled, grouped_eq _ _ (settled.rounded _), Bool.and_assoc,
      Bool.and_self]
  · rw [not_or] at plain
    exact rounded_of_unspelled (Number.ofLocalText?_of_mark spells hpoint separator separator' _
      plain.1 plain.2 (clear.resolve_left plain.1))

/-- The places that the arguments of a rounding ask for. -/
def wantedPlaces (arguments : Arguments) : Nat :=
  ((arguments.given? 0).bind Text.natural?).getD 2

/-- The decimal point of a rounding. -/
def wantedPoint (settings : Settings) (arguments : Arguments) : Text :=
  arguments.getOr 1 settings.decimalPoint

/-- The separator between thousands of a rounding. -/
def wantedThousands (settings : Settings) (arguments : Arguments) : Text :=
  arguments.getOr 2 settings.thousandsSeparator

theorem apply_round (surroundings : Surroundings) (value : Value) (arguments : Arguments) :
    apply surroundings value arguments .round =
      rounded value (wantedPlaces arguments) (wantedPoint surroundings.settings arguments)
        (wantedThousands surroundings.settings arguments) := rfl

/-- **Rounding is idempotent**, as long as a number with places keeps them apart and its count of
last places does not have 52 bits: a number is rounded to a text, and this text to itself. -/
theorem round_again (surroundings : Surroundings) (arguments : Arguments) (value : Value) (n : Number)
    (spelled : spelled? (wantedPoint surroundings.settings arguments)
      (wantedThousands surroundings.settings arguments) value = some n)
    (finite : n.isFinite = true)
    (hpoint : wantedPoint surroundings.settings arguments ≠ [])
    (separator : Text.IsSeparator (wantedPoint surroundings.settings arguments))
    (separator' : Text.IsSeparator (wantedThousands surroundings.settings arguments))
    (kept : min (wantedPlaces arguments) Number.maxPlaces = 0 ∨
      Number.pointMark (wantedPoint surroundings.settings arguments)
        (wantedThousands surroundings.settings arguments) ∉ Decimal.ambiguousMarks ∧
      (n.lastPlaces (min (wantedPlaces arguments) Number.maxPlaces) < 2 ^ 51 ∨
        2 ^ 52 ≤ n.lastPlaces (min (wantedPlaces arguments) Number.maxPlaces))) :
    ∃ t, apply surroundings value arguments .round = .text t ∧
      apply surroundings (.text t) arguments .round = .text t := by
  have settled := Number.settled_roundTo (Nat.min_le_right _ _) finite (kept.imp_right And.right)
  refine ⟨n.grouped (wantedPlaces arguments) (wantedPoint surroundings.settings arguments)
    (wantedThousands surroundings.settings arguments), ?_, ?_⟩
  · rw [apply_round, rounded_of_spelled? spelled]
  · rw [apply_round]
    exact rounded_grouped settled hpoint separator separator' (kept.imp_right And.left)

/-- The two separators may stand for each other. -/
theorem round_again_of_swapped_separators :
    ∃ t, apply ⟨{}, [], 0⟩ (.text "1.234.567,8915") ["3", ",", "."] .round = .text t ∧
      apply ⟨{}, [], 0⟩ (.text t) ["3", ",", "."] .round = .text t := by
  have spelled : spelled? "," "." (.text "1.234.567,8915") =
      some (Number.ofDecimal false ⟨12345678915, 4⟩) := by decide +kernel
  have finite : (Number.ofDecimal false ⟨12345678915, 4⟩).isFinite = true := by decide +kernel
  have few : (Number.ofDecimal false ⟨12345678915, 4⟩).lastPlaces 3 < 2 ^ 51 := by decide +kernel
  have comma : Text.IsSeparator [','] := by simp [Text.IsSeparator, Text.isBlank]
  have stop : Text.IsSeparator ['.'] := by simp [Text.IsSeparator, Text.isBlank]
  have clear : Number.pointMark [','] ['.'] ∉ Decimal.ambiguousMarks := by decide
  exact round_again ⟨{}, [], 0⟩ ["3", ",", "."] _ _ spelled finite (by decide) comma stop
    (.inr ⟨clear, .inl few⟩)

/-- A count of 52 bits is rounded up once more, and with a comma for both separators the places run
into the digits in front of them. -/
theorem rounding_again_differs :
    (Number.isFinite (Number.ofDecimal false ⟨35184372088832015625, 6⟩) = true ∧
      apply ⟨{}, [], 0⟩ (.number (Number.ofDecimal false ⟨35184372088832015625, 6⟩)) [] .round =
        .text "35,184,372,088,832.02" ∧
      apply ⟨{}, [], 0⟩ (.text "35,184,372,088,832.02") [] .round =
        .text "35,184,372,088,832.03") ∧
    (Number.isFinite (Number.ofDecimal false ⟨15, 1⟩) = true ∧
      apply ⟨{}, [], 0⟩ (.number (Number.ofDecimal false ⟨15, 1⟩)) ["2", ","] .round =
        .text "1,50" ∧
      apply ⟨{}, [], 0⟩ (.text "1,50") ["2", ","] .round = .text "150,00") := by
  have first : (Number.ofDecimal false ⟨35184372088832015625, 6⟩).grouped 2 "." "," =
      "35,184,372,088,832.02" := by decide +kernel
  have read : spelled? "." "," (.text "35,184,372,088,832.02") =
      some (Number.ofDecimal false ⟨3518437208883202, 2⟩) := by decide +kernel
  have second : (Number.ofDecimal false ⟨3518437208883202, 2⟩).grouped 2 "." "," =
      "35,184,372,088,832.03" := by decide +kernel
  have again : rounded (.text "35,184,372,088,832.02") 2 "." "," =
      .text "35,184,372,088,832.03" := by
    rw [rounded_of_spelled? read, second]
  have first' : (Number.ofDecimal false ⟨15, 1⟩).grouped 2 "," "," = "1,50" := by decide +kernel
  have read' : spelled? "," "," (.text "1,50") = some (Number.ofDecimal false ⟨150, 0⟩) := by
    decide +kernel
  have second' : (Number.ofDecimal false ⟨150, 0⟩).grouped 2 "," "," = "150,00" := by
    decide +kernel
  have again' : rounded (.text "1,50") 2 "," "," = .text "150,00" := by
    rw [rounded_of_spelled? read', second']
  exact ⟨⟨by decide +kernel, congrArg Value.text first, again⟩,
    by decide +kernel, congrArg Value.text first', again'⟩

end Stencil.Directive
