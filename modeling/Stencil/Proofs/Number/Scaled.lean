import Stencil.Proofs.Number.Rounding
import Stencil.Value.Display

/-!
# Scaling by a power of ten

Rounding to a count of places multiplies by a power of ten, rounds to a whole number and divides
again. Each of the three is the exact operation followed by a rounding to the nearest magnitude, and
the second one is exact.

## Main definitions

* `Number.nearestWhole`: the whole number nearest to a count of units
* `Number.placeFactor`: the power of ten of a count of places

## Main results

* `Number.exists_unitsPerOne_eq`: what is used of the number one
* `Number.exists_mul_placeFactor`, `exists_round`, `exists_div_placeFactor`: the three operations in
  exact terms
-/

namespace Stencil.Number

variable {x : Number} {places count m r units n : Nat}

/-! ## The number one -/

theorem unitsPerOne_eq : unitsPerOne = 2 ^ 1074 := by decide +kernel

/-- One is a power of two, far above the smallest positive number and far below infinity. -/
theorem exists_unitsPerOne_eq : ∃ e, unitsPerOne = 2 ^ e ∧ 200 ≤ e ∧ e ≤ 1900 :=
  ⟨1074, unitsPerOne_eq, by decide, by decide⟩

theorem unitsPerOne_pos : 0 < unitsPerOne := by
  obtain ⟨e, same, -⟩ := exists_unitsPerOne_eq
  rw [same]
  exact Nat.two_pow_pos e

theorem cast_unitsPerOne_pos : (0 : ℚ) < unitsPerOne := by exact_mod_cast unitsPerOne_pos

theorem two_pow_le_unitsPerOne : (2 ^ 200 : ℚ) ≤ unitsPerOne := by
  obtain ⟨e, one_eq, large, -⟩ := exists_unitsPerOne_eq
  rw [one_eq]
  exact_mod_cast Nat.pow_le_pow_right (by decide) large

/-- The whole number nearest to a count of units; a tie goes up. -/
def nearestWhole (units : Nat) : Nat := (2 * units + unitsPerOne) / (2 * unitsPerOne)

theorem nearestWhole_eq_of_le_of_lt (low : 2 * n * unitsPerOne ≤ 2 * units + unitsPerOne)
    (high : 2 * units + unitsPerOne < 2 * n * unitsPerOne + 2 * unitsPerOne) :
    nearestWhole units = n :=
  Nat.div_eq_of_lt_le (by linarith) (by linarith)

theorem nearestWhole_mul (n : Nat) : nearestWhole (n * unitsPerOne) = n := by
  have := unitsPerOne_pos
  exact nearestWhole_eq_of_le_of_lt (by linarith) (by linarith)

/-- What is far from zero is whole. -/
theorem nearestWhole_mul_unitsPerOne (large : 2 ^ 52 * unitsPerOne ≤ unitsAt m) :
    nearestWhole (unitsAt m) * unitsPerOne = unitsAt m := by
  obtain ⟨e, one_eq, -⟩ := exists_unitsPerOne_eq
  have whole : unitsPerOne ∣ unitsAt m := by
    rw [one_eq] at large ⊢
    exact two_pow_dvd_unitsAt large
  obtain ⟨n, same⟩ := whole
  rw [same, Nat.mul_comm unitsPerOne, nearestWhole_mul]

theorem nearestWhole_le (small : unitsAt m < 2 ^ 52 * unitsPerOne) :
    nearestWhole (unitsAt m) ≤ 2 ^ 52 := by
  have positive := unitsPerOne_pos
  refine Nat.lt_succ_iff.mp ?_
  rw [nearestWhole, Nat.div_lt_iff_lt_mul (by omega)]
  linarith

/-- A magnitude stands for every whole number to which a number is rounded. -/
theorem exists_unitsAt_nearestWhole (m : Nat) :
    ∃ n, unitsAt n = nearestWhole (unitsAt m) * unitsPerOne := by
  rcases Nat.lt_or_ge (unitsAt m) (2 ^ 52 * unitsPerOne) with small | large
  · obtain ⟨e, one_eq, -⟩ := exists_unitsPerOne_eq
    rw [one_eq]
    exact exists_unitsAt e ((nearestWhole_le small).trans (by norm_num))
  · exact ⟨m, (nearestWhole_mul_unitsPerOne large).symm⟩

/-! ## Scaling -/

/-- The power of ten that keeps a count of places. -/
def placeFactor (places : Nat) : Number := ofDecimal false ⟨1, -(places : Int)⟩

theorem placeFactor_spec : ∀ places < 21, (placeFactor places).negative = false ∧
    (placeFactor places).isFinite = true ∧ (placeFactor places).isZero = false ∧
    (placeFactor places).units = 10 ^ places * unitsPerOne := by
  decide +kernel

theorem roundTo_eq (places : Nat) (x : Number) :
    x.roundTo places =
      if (x.mul (placeFactor places)).isFinite
      then (x.mul (placeFactor places)).round.div (placeFactor places) else x := rfl

theorem isFinite_iff : x.isFinite = true ↔ x.magnitude < infinityMagnitude := decide_eq_true_iff

theorem isNaN_of_isFinite (finite : x.isFinite = true) : x.isNaN = false := by
  rw [isFinite_iff] at finite
  exact decide_eq_false (Nat.lt_asymm finite)

/-- Beyond the largest number lies infinity. -/
theorem ofUnits_eq (negative : Bool) (num den : Nat) :
    ofUnits negative num den = ⟨negative, min (nearestMagnitude num den) infinityMagnitude⟩ := rfl

/-- The scaled number is the nearest one to the exact product. -/
theorem exists_mul_placeFactor (few : places ≤ 20) (finite : x.isFinite = true) :
    ∃ m, Nearest (unitsAt x.magnitude * 10 ^ places) m ∧
      x.mul (placeFactor places) = ⟨x.negative, min m infinityMagnitude⟩ := by
  obtain ⟨sign, finite', -, units⟩ := placeFactor_spec places (by omega)
  refine ⟨nearestMagnitude (x.units * (placeFactor places).units) unitsPerOne, ?_, ?_⟩
  · have nearest := nearest_nearestMagnitude (x.units * (placeFactor places).units) unitsPerOne_pos
    have nonzero : (unitsPerOne : ℚ) ≠ 0 := by exact_mod_cast unitsPerOne_pos.ne'
    have quotient : ((x.units * (placeFactor places).units : Nat) / unitsPerOne : ℚ) =
        unitsAt x.magnitude * 10 ^ places := by
      rw [units, units_eq_unitsAt]
      push_cast
      field_simp
    rwa [quotient] at nearest
  · simp only [mul, isNaN_of_isFinite finite, isNaN_of_isFinite finite', finite, finite', sign,
      Bool.or_self, Bool.not_true, Bool.false_eq_true, if_false, Bool.bne_false, ofUnits_eq]

/-- Rounding to a whole number is exact. -/
theorem exists_round (finite : x.isFinite = true) :
    ∃ n, unitsAt n = nearestWhole (unitsAt x.magnitude) * unitsPerOne ∧
      x.round = ⟨x.negative, min n infinityMagnitude⟩ := by
  obtain ⟨n, same⟩ := exists_unitsAt_nearestWhole x.magnitude
  refine ⟨n, same, ?_⟩
  have nearest := nearest_nearestMagnitude (unitsAt n) Nat.one_pos
  rw [Nat.cast_one, div_one] at nearest
  rw [round, if_pos finite, ofUnits_eq, ← nearest.unique (.unitsAt_self n), same]
  rfl

/-- Undoing the scaling gives the number nearest to the exact quotient. -/
theorem exists_div_placeFactor (few : places ≤ 20) (finite : x.isFinite = true)
    (whole : unitsAt x.magnitude = count * unitsPerOne) :
    ∃ r, Nearest (count * unitsPerOne / 10 ^ places) r ∧
      x.div (placeFactor places) = ⟨x.negative, min r infinityMagnitude⟩ := by
  obtain ⟨sign, finite', nonzero, units⟩ := placeFactor_spec places (by omega)
  refine ⟨nearestMagnitude (x.units * unitsPerOne) (placeFactor places).units, ?_, ?_⟩
  · have positive : 0 < (placeFactor places).units := by
      rw [units]
      exact Nat.mul_pos (by positivity) unitsPerOne_pos
    have nearest := nearest_nearestMagnitude (x.units * unitsPerOne) positive
    have nonzero : (unitsPerOne : ℚ) ≠ 0 := by exact_mod_cast unitsPerOne_pos.ne'
    have quotient : ((x.units * unitsPerOne : Nat) / (placeFactor places).units : ℚ) =
        count * unitsPerOne / 10 ^ places := by
      rw [units, units_eq_unitsAt, whole]
      push_cast
      field_simp
    rwa [quotient] at nearest
  · simp only [div, isNaN_of_isFinite finite, isNaN_of_isFinite finite', finite, finite', nonzero,
      sign, Bool.or_self, Bool.not_true, Bool.false_eq_true, if_false, Bool.bne_false, ofUnits_eq]

end Stencil.Number
