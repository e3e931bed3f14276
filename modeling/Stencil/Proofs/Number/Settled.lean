import Stencil.Number.Decimal
import Stencil.Proofs.Number.Scaled

/-!
# Numbers that stay as they are rounded

A number that is rounded to a count of places is the one nearest to a whole count of last places. So
its notation with these places is that count, and the number is read back from it. To round it again
is to count the last places of the read number. Its error is at most half a unit of its own, which
is less than a quarter of a last place while the count has at most 51 bits. With 52 bits the product
by which the places are counted can be off by a half, and it is then rounded up. With more bits every
product is whole.

## Main definitions

* `Number.lastPlaces`: the count of last places of a number
* `Number.Settled`: read back from its notation, and rounded to itself

## Main results

* `Number.nearest_reread`: a count of last places is read as the number that it was divided into
* `Number.nearest_again`: that number is rounded to itself, unless the count has 52 bits
* `Number.roundTo_cases`: what rounding gives, in exact terms
* `Number.settled_roundTo`: a rounded number is settled, unless its count has 52 bits
-/

namespace Stencil.Number

variable {x : Number} {places count m r units n : Nat}

/-! ## Counts of last places -/

theorem abs_div_sub {a b factor : ℚ} (pos : 0 < factor) :
    |a / factor - b| = |a - b * factor| / factor := by
  have same : a / factor - b = (a - b * factor) / factor := by field_simp
  rw [same, abs_div, abs_of_pos pos]

/-- A power of two times a power of ten is whole, or else it is small. -/
theorem two_pow_mul_ten_pow_cases (e places : Nat) :
    (∃ whole, 2 ^ e * 10 ^ places = whole * unitsPerOne) ∨
      2 * (2 ^ e * 10 ^ places) ≤ 5 ^ places * unitsPerOne := by
  obtain ⟨one, one_eq, -⟩ := exists_unitsPerOne_eq
  have factors : 2 ^ e * 10 ^ places = 5 ^ places * 2 ^ (e + places) := by
    rw [show 10 = 2 * 5 from rfl, mul_pow, pow_add]
    ring
  rw [factors, one_eq]
  rcases Nat.lt_or_ge (e + places) one with lt | le
  · refine .inr ?_
    rw [Nat.mul_left_comm, ← pow_succ']
    exact Nat.mul_le_mul_left _ (Nat.pow_le_pow_right (by decide) lt)
  · obtain ⟨rest, same⟩ := pow_dvd_pow 2 le
    exact .inl ⟨5 ^ places * rest, by rw [same]; ring⟩

section Count

variable (few : places ≤ 20) (h : Nearest (count * unitsPerOne / 10 ^ places) r)
include few h

/-- How far a number is from the count of last places that it stands for. -/
theorem scaled_error (pos : 0 < count) :
    |(count * unitsPerOne - unitsAt r * 10 ^ places : ℚ)| * 2 ^ 53 ≤ count * unitsPerOne := by
  have factor : (0 : ℚ) < 10 ^ places := by positivity
  have one := two_pow_le_unitsPerOne
  have normal : (2 ^ 53 : ℚ) ≤ count * unitsPerOne / 10 ^ places := by
    rw [le_div_iff₀ factor]
    have tens : (10 ^ places : ℚ) ≤ 10 ^ 20 := pow_le_pow_right₀ (by norm_num) few
    have : (1 * unitsPerOne : ℚ) ≤ count * unitsPerOne :=
      mul_le_mul_of_nonneg_right (by exact_mod_cast pos) cast_unitsPerOne_pos.le
    calc (2 ^ 53 * 10 ^ places : ℚ) ≤ 2 ^ 53 * 10 ^ 20 := by linarith
      _ ≤ 2 ^ 200 := by norm_num
      _ ≤ count * unitsPerOne := by linarith
  have error := h.error normal
  rwa [abs_sub_comm, abs_div_sub factor, div_mul_eq_mul_div, div_le_div_iff_of_pos_right factor]
    at error

/-- A small count is so near to its number that it is the one that is written. -/
theorem nearestEven_of_small (pos : 0 < count)
    (small : 2 * (unitsAt r * 10 ^ places) ≤ 5 ^ places * unitsPerOne) :
    nearestEven (unitsAt r * 10 ^ places) unitsPerOne = count := by
  have error := scaled_error few h pos
  have positive := cast_unitsPerOne_pos
  have small : (2 * (unitsAt r * 10 ^ places) : ℚ) ≤ 5 ^ places * unitsPerOne := by
    exact_mod_cast small
  have fives : (5 ^ places : ℚ) ≤ 5 ^ 20 := pow_le_pow_right₀ (by norm_num) few
  have bound : (5 ^ places * unitsPerOne : ℚ) ≤ 5 ^ 20 * unitsPerOne :=
    mul_le_mul_of_nonneg_right fives positive.le
  have above := le_abs_self (count * unitsPerOne - unitsAt r * 10 ^ places : ℚ)
  refine nearestEven_eq_of_near unitsPerOne_pos ?_
  push_cast
  linarith

/-- **A number of last places is read back.** -/
theorem nearest_reread :
    Nearest (nearestEven (unitsAt r * 10 ^ places) unitsPerOne * unitsPerOne / 10 ^ places) r := by
  have factor : (0 : ℚ) < 10 ^ places := by positivity
  have nonneg : (0 : ℚ) ≤ count * unitsPerOne / 10 ^ places :=
    div_nonneg (mul_nonneg (Nat.cast_nonneg _) cast_unitsPerOne_pos.le) factor.le
  refine h.of_closer nonneg ?_ fun inside outside lower next => ?_
  · have closer := nearestEven_closer (unitsAt r * 10 ^ places) unitsPerOne_pos count
    rw [Nat.cast_mul, Nat.cast_pow, Nat.cast_ofNat] at closer
    rw [abs_div_sub factor, abs_div_sub factor]
    exact div_le_div_of_nonneg_right closer factor.le
  · -- just above a power of two, what is written lies on the same side as the count
    by_contra narrower
    subst next
    rw [div_lt_iff₀ factor] at inside
    rw [lt_div_iff₀ factor] at outside
    obtain ⟨e, power⟩ := exists_unitsAt_eq_two_pow narrower
    rcases two_pow_mul_ten_pow_cases e places with ⟨whole, same⟩ | small
    · rw [← power] at same
      rw [same, nearestEven_mul whole unitsPerOne_pos] at inside
      have same : (unitsAt (lower + 1) * 10 ^ places : ℚ) = whole * unitsPerOne := by
        exact_mod_cast same
      exact absurd inside (not_lt.mpr same.le)
    · rw [← power] at small
      have counted : 0 < count := by
        refine Nat.pos_of_ne_zero fun zero => ?_
        rw [zero, Nat.cast_zero, zero_mul] at outside
        exact absurd outside (not_lt.mpr (mul_nonneg (Nat.cast_nonneg _) factor.le))
      rw [nearestEven_of_small few h counted small] at inside
      exact lt_asymm inside outside

/-- Below 51 bits a count survives the loss. -/
theorem nearestWhole_rescaled (bits : count < 2 ^ 51) {m : Nat}
    (h' : Nearest (unitsAt r * 10 ^ places) m) : nearestWhole (unitsAt m) = count := by
  obtain ⟨e, one_eq, large, -⟩ := exists_unitsPerOne_eq
  obtain ⟨e, rfl⟩ : ∃ e', e = e' + 2 := ⟨e - 2, by omega⟩
  have quarter : unitsPerOne = 4 * 2 ^ e := by
    rw [one_eq, pow_succ, pow_succ]
    ring
  rcases Nat.eq_zero_or_pos count with rfl | pos
  · rw [Nat.cast_zero, zero_mul, zero_div] at h
    obtain rfl := h.eq_zero
    have zero : (unitsAt 0 : ℚ) = 0 := Nat.cast_zero
    rw [zero, zero_mul] at h'
    obtain rfl := h'.eq_zero
    have whole := nearestWhole_mul 0
    rwa [Nat.zero_mul] at whole
  · -- the quarters next to the count have at most 53 bits
    have error := scaled_error few h pos
    have bits' : (count * unitsPerOne : ℚ) ≤ 2 ^ 51 * unitsPerOne :=
      mul_le_mul_of_nonneg_right (by exact_mod_cast bits.le) cast_unitsPerOne_pos.le
    have quarter' : (unitsPerOne : ℚ) = 4 * 2 ^ e := by exact_mod_cast quarter
    have off : |(count * unitsPerOne - unitsAt r * 10 ^ places : ℚ)| ≤ 2 ^ e := by linarith
    obtain ⟨above, below⟩ := abs_le.mp off
    rw [quarter'] at above below
    have low_le : (4 * count - 1) * 2 ^ e ≤ unitsAt m := h'.significand_le e (by omega) (by
      push_cast [show 1 ≤ 4 * count by omega]
      linarith)
    have le_high : unitsAt m ≤ (4 * count + 1) * 2 ^ e := h'.le_significand e (by omega) (by
      push_cast
      linarith)
    rw [Nat.sub_mul] at low_le
    have width : 0 < 2 ^ e := Nat.two_pow_pos e
    refine nearestWhole_eq_of_le_of_lt ?_ ?_
    · rw [quarter]
      linarith [Nat.sub_le_iff_le_add.mp low_le]
    · rw [quarter]
      linarith

/-- The least count of 53 bits survives when it loses its leading bit. -/
theorem nearestWhole_of_carry (bits : 2 ^ 52 ≤ count) {m : Nat}
    (h' : Nearest (unitsAt r * 10 ^ places) m) (small : unitsAt m < 2 ^ 52 * unitsPerOne) :
    nearestWhole (unitsAt m) = count := by
  obtain ⟨e, one_eq, large, -⟩ := exists_unitsPerOne_eq
  obtain ⟨e, rfl⟩ : ∃ e', e = e' + 1 := ⟨e - 1, by omega⟩
  have half : unitsPerOne = 2 * 2 ^ e := by
    rw [one_eq, pow_succ']
  have half' : (unitsPerOne : ℚ) = 2 * 2 ^ e := by exact_mod_cast half
  have below : (unitsAt r * 10 ^ places : ℚ) < 2 ^ 52 * unitsPerOne := by
    by_contra above
    have reached := h'.significand_le (c := 2 ^ 52) (e + 1) (by norm_num) (by
      rw [← one_eq]
      push_cast
      exact not_lt.mp above)
    rw [← one_eq] at reached
    exact absurd small (not_lt.mpr reached)
  have error := scaled_error few h (Nat.lt_of_lt_of_le (by norm_num) bits)
  have bits' : (2 ^ 52 * unitsPerOne : ℚ) ≤ count * unitsPerOne :=
    mul_le_mul_of_nonneg_right (by exact_mod_cast bits) cast_unitsPerOne_pos.le
  rw [abs_of_pos (by linarith)] at error
  -- so near to it there is only one count
  obtain rfl : count = 2 ^ 52 := by
    have less : (count * (2 ^ 53 - 1) * unitsPerOne : ℚ) < 2 ^ 53 * 2 ^ 52 * unitsPerOne := by
      linarith
    have less := lt_of_mul_lt_mul_right less cast_unitsPerOne_pos.le
    have less : (count * (2 ^ 53 - 1) : ℚ) < (2 ^ 52 + 1) * (2 ^ 53 - 1) :=
      less.trans (by norm_num)
    have less := lt_of_mul_lt_mul_right less (by norm_num)
    have less : count < 2 ^ 52 + 1 := by exact_mod_cast less
    omega
  have low_le : (2 ^ 53 - 1) * 2 ^ e ≤ unitsAt m := h'.significand_le e (by norm_num) (by
    rw [half'] at error
    push_cast at error ⊢
    linarith)
  rw [Nat.sub_mul] at low_le
  rw [half] at small
  refine nearestWhole_eq_of_le_of_lt ?_ ?_
  · rw [half]
    linarith [Nat.sub_le_iff_le_add.mp low_le]
  · rw [half]
    linarith

/-- From 52 bits on the count may change, but not the number that it stands for. -/
theorem nearest_rescaled (bits : 2 ^ 52 ≤ count) (written : ∃ n, unitsAt n = count * unitsPerOne)
    {m : Nat} (h' : Nearest (unitsAt r * 10 ^ places) m) :
    Nearest (nearestWhole (unitsAt m) * unitsPerOne / 10 ^ places) r := by
  have factor : (0 : ℚ) < 10 ^ places := by positivity
  have nonneg : (0 : ℚ) ≤ count * unitsPerOne / 10 ^ places :=
    div_nonneg (mul_nonneg (Nat.cast_nonneg _) cast_unitsPerOne_pos.le) factor.le
  obtain ⟨n, count_eq⟩ := written
  rcases Nat.lt_or_ge (unitsAt m) (2 ^ 52 * unitsPerOne) with small | large
  · suffices same : nearestWhole (unitsAt m) = count by rwa [same]
    exact nearestWhole_of_carry few h bits h' small
  · have whole := nearestWhole_mul_unitsPerOne large
    have whole : (nearestWhole (unitsAt m) * unitsPerOne : ℚ) = unitsAt m := by
      exact_mod_cast whole
    rw [whole]
    refine h.of_closer nonneg ?_ fun inside outside lower next => ?_
    · have closest := h'.closest n
      have count_eq : (unitsAt n : ℚ) = count * unitsPerOne := by exact_mod_cast count_eq
      rw [abs_div_sub factor, abs_div_sub factor, ← count_eq]
      exact div_le_div_of_nonneg_right closest factor.le
    · -- a power of two is scaled without loss
      by_contra narrower
      subst next
      obtain ⟨e, power⟩ := exists_unitsAt_eq_two_pow narrower
      have fives : 5 ^ places ≤ 2 ^ 53 :=
        (Nat.pow_le_pow_right (by decide) few).trans (by norm_num)
      obtain ⟨scaled, scaled_eq⟩ := exists_unitsAt (e + places) fives
      have same : (unitsAt scaled : ℚ) = unitsAt (lower + 1) * 10 ^ places := by
        rw [scaled_eq, power]
        push_cast
        rw [show (10 : ℚ) = 5 * 2 by norm_num, mul_pow, pow_add]
        ring
      rw [← same] at h'
      obtain rfl := h'.unique (.unitsAt_self scaled)
      rw [same, mul_div_cancel_right₀ _ factor.ne'] at inside
      exact lt_irrefl _ inside

/-- A second rounding gives the same number, unless the count has 52 bits. -/
theorem nearest_again (written : ∃ n, unitsAt n = count * unitsPerOne)
    (survives : places = 0 ∨ count < 2 ^ 51 ∨ 2 ^ 52 ≤ count) {m : Nat}
    (h' : Nearest (unitsAt r * 10 ^ places) m) :
    Nearest (nearestWhole (unitsAt m) * unitsPerOne / 10 ^ places) r := by
  rcases survives with rfl | few_bits | many_bits
  · obtain ⟨n, count_eq⟩ := written
    rw [pow_zero, mul_one] at h'
    obtain rfl := h'.unique (.unitsAt_self r)
    have same : (count * unitsPerOne / 10 ^ 0 : ℚ) = unitsAt n := by
      rw [count_eq, pow_zero, div_one, Nat.cast_mul]
    rw [same] at h
    obtain rfl := h.unique (.unitsAt_self n)
    rw [count_eq, nearestWhole_mul, same]
    exact h
  · rw [nearestWhole_rescaled few h few_bits h']
    exact h
  · exact nearest_rescaled few h many_bits written h'

end Count

/-! ## Rounding twice -/

theorem lt_infinityMagnitude {s : Nat} (normal : s < 2046) (le : unitsAt n ≤ 2 ^ 52 * 2 ^ s) :
    n < infinityMagnitude := by
  rw [← unitsAt_add (.inr le_rfl) (by norm_num), unitsAt_strictMono.le_iff_le] at le
  simp only [infinityMagnitude, Nat.pow_eq]
  omega

/-- How many last places a number has once it is rounded to a count of places. -/
def lastPlaces (places : Nat) (x : Number) : Nat :=
  (x.mul (placeFactor places)).round.units / unitsPerOne

/-- **Rounding** leaves a number that is too large to be scaled, and else it gives the number that is
nearest to a whole count of last places. -/
theorem roundTo_cases (few : places ≤ 20) (finite : x.isFinite = true) :
    ∃ m, Nearest (unitsAt x.magnitude * 10 ^ places) m ∧
      ((infinityMagnitude ≤ m ∧ x.roundTo places = x) ∨
        (m < infinityMagnitude ∧ x.lastPlaces places = nearestWhole (unitsAt m) ∧
          ∃ r < infinityMagnitude, Nearest (nearestWhole (unitsAt m) * unitsPerOne / 10 ^ places) r ∧
            x.roundTo places = ⟨x.negative, r⟩)) := by
  obtain ⟨m, nearest, product⟩ := exists_mul_placeFactor few finite
  refine ⟨m, nearest, ?_⟩
  rw [roundTo_eq, lastPlaces, product]
  rcases Nat.lt_or_ge m infinityMagnitude with small | large
  · rw [min_eq_left small.le]
    have finite' : isFinite ⟨x.negative, m⟩ = true := isFinite_iff.mpr small
    obtain ⟨n, whole, round_eq⟩ := exists_round finite'
    change unitsAt n = nearestWhole (unitsAt m) * unitsPerOne at whole
    have small' : n < infinityMagnitude := by
      rcases Nat.lt_or_ge (unitsAt m) (2 ^ 52 * unitsPerOne) with near | far
      · obtain ⟨e, one_eq, -, most⟩ := exists_unitsPerOne_eq
        refine lt_infinityMagnitude (s := e) (by omega) ?_
        rw [whole, ← one_eq]
        exact Nat.mul_le_mul_right _ (nearestWhole_le near)
      · rw [nearestWhole_mul_unitsPerOne far] at whole
        rw [unitsAt_strictMono.injective whole]
        exact small
    rw [min_eq_left small'.le] at round_eq
    obtain ⟨r, nearest', quotient⟩ :=
      exists_div_placeFactor (x := ⟨x.negative, n⟩) few (isFinite_iff.mpr small') whole
    have le : r ≤ n := by
      refine nearest'.le_of_le ?_
      rw [whole, Nat.cast_mul]
      refine div_le_self (mul_nonneg (Nat.cast_nonneg _) cast_unitsPerOne_pos.le) ?_
      exact one_le_pow₀ (by norm_num)
    have small'' := le.trans_lt small'
    refine .inr ⟨small, ?_, r, small'', nearest', ?_⟩
    · rw [round_eq, units_eq_unitsAt, whole, Nat.mul_div_cancel _ unitsPerOne_pos]
    · rw [if_pos finite', round_eq, quotient, min_eq_left small''.le]
  · rw [min_eq_right large, if_neg (by simp [isFinite])]
    exact .inl ⟨large, rfl⟩

/-- A decimal without an exponent is read as the nearest number. -/
theorem ofDecimal_eq_of_nearest (few : places ≤ 20) (negative : Bool)
    (h : Nearest (n * unitsPerOne / 10 ^ places) r) (finite : r < infinityMagnitude) :
    ofDecimal negative ⟨n, places⟩ = ⟨negative, r⟩ := by
  rw [ofDecimal]
  rcases Nat.eq_zero_or_pos n with rfl | pos
  · rw [Nat.cast_zero, zero_mul, zero_div] at h
    rw [if_pos rfl, h.eq_zero]
  · have den : 0 < 10 ^ places := by positivity
    have nearest := nearest_nearestMagnitude (n * unitsPerOne) den
    push_cast at nearest
    have noExponent : (-(places : Int)).toNat = 0 := by omega
    rw [if_neg pos.ne', if_neg (by simp only; omega), if_neg (by simp only; omega), ofUnits_eq]
    simp only [noExponent, Int.toNat_natCast, Nat.pow_eq, pow_zero, mul_one]
    rw [nearest.unique h, min_eq_left finite.le]

/-- A magnitude is settled at a count of places if it is read back from its notation with these
places, and rounding does not change it any more. -/
structure Settled (places magnitude : Nat) : Prop where
  finite : magnitude < infinityMagnitude
  reread : ∀ negative, ofDecimal negative
    ⟨nearestEven (unitsAt magnitude * 10 ^ places) unitsPerOne, places⟩ = ⟨negative, magnitude⟩
  rounded : ∀ negative, roundTo places ⟨negative, magnitude⟩ = ⟨negative, magnitude⟩

/-- A number that is too large to be scaled is whole. -/
theorem settled_of_large (few : places ≤ 20) (finite : r < infinityMagnitude)
    (h : Nearest (unitsAt r * 10 ^ places) m) (large : infinityMagnitude ≤ m) :
    Settled places r := by
  have far : 2 ^ 52 * unitsPerOne ≤ unitsAt r := by
    by_contra small
    obtain ⟨e, one_eq, -, most⟩ := exists_unitsPerOne_eq
    obtain ⟨limit, limit_eq⟩ := exists_unitsAt (e + 67) (show 2 ^ 52 ≤ 2 ^ 53 by norm_num)
    have below : m ≤ limit := h.le_of_le (by
      have tens : 10 ^ places ≤ 2 ^ 67 :=
        (Nat.pow_le_pow_right (by decide) few).trans (by norm_num)
      have := Nat.mul_le_mul (not_le.mp small).le tens
      rw [limit_eq, pow_add, ← one_eq, ← Nat.mul_assoc]
      exact_mod_cast this)
    have := lt_infinityMagnitude (show e + 67 < 2046 by omega) limit_eq.le
    omega
  have whole := nearestWhole_mul_unitsPerOne far
  generalize nearestWhole (unitsAt r) = count at whole
  have scaled : unitsAt r * 10 ^ places = count * 10 ^ places * unitsPerOne := by
    rw [← whole]
    ring
  refine ⟨finite, fun negative => ?_, fun negative => ?_⟩
  · rw [scaled, nearestEven_mul _ unitsPerOne_pos]
    refine ofDecimal_eq_of_nearest few negative ?_ finite
    have factor : (10 ^ places : ℚ) ≠ 0 := by positivity
    have same : ((count * 10 ^ places : Nat) * unitsPerOne / 10 ^ places : ℚ) = unitsAt r := by
      rw [← whole, Nat.cast_mul, Nat.cast_mul, Nat.cast_pow, Nat.cast_ofNat, mul_right_comm,
        mul_div_cancel_right₀ _ factor]
    rw [same]
    exact .unitsAt_self r
  · obtain ⟨m', nearest, ⟨-, same⟩ | ⟨small, -⟩⟩ :=
      roundTo_cases (x := ⟨negative, r⟩) few (isFinite_iff.mpr finite)
    · exact same
    · rw [h.unique nearest] at large
      omega

/-- **A rounded number is settled**, unless its count of last places has 52 bits. -/
theorem settled_roundTo (few : places ≤ 20) (finite : x.isFinite = true)
    (survives : places = 0 ∨ x.lastPlaces places < 2 ^ 51 ∨ 2 ^ 52 ≤ x.lastPlaces places) :
    Settled places (x.roundTo places).magnitude := by
  obtain ⟨m, nearest, ⟨large, same⟩ | ⟨small, counted, r, finite', nearest', same⟩⟩ :=
    roundTo_cases few finite
  · rw [same]
    exact settled_of_large few (isFinite_iff.mp finite) nearest large
  · rw [same]
    rw [counted] at survives
    refine ⟨finite', fun negative => ?_, fun negative => ?_⟩
    · exact ofDecimal_eq_of_nearest few negative (nearest_reread few nearest') finite'
    · obtain ⟨m', nearest'', ⟨-, same⟩ | ⟨-, -, r', -, again, same⟩⟩ :=
        roundTo_cases (x := ⟨negative, r⟩) few (isFinite_iff.mpr finite')
      · exact same
      · have stays := nearest_again few nearest' (exists_unitsAt_nearestWhole m) survives nearest''
        rw [same, again.unique stays]

end Stencil.Number
