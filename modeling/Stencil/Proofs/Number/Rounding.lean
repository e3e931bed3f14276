import Mathlib.Algebra.Order.Field.Rat
import Mathlib.Data.Rat.Cast.Order
import Mathlib.Tactic.Linarith
import Mathlib.Tactic.Ring
import Mathlib.Tactic.NormNum
import Mathlib.Tactic.Positivity
import Mathlib.Tactic.FieldSimp
import Stencil.Number.Basic

/-!
# Rounding to the nearest magnitude

What a magnitude stands for grows from one magnitude to the next by a gap that is a power of two.
A quotient is rounded to the magnitude whose rounding interval holds it: the interval reaches to the
middle between neighbours, and the middle itself belongs to the even one. All that is needed of
rounding follows from these intervals, in exact rational arithmetic.

## Main definitions

* `Number.unitsAt`, `Number.gapAt`: the units of a magnitude, and those to the next one
* `Number.Nearest q m`: the rounding interval of `m` holds `q`

## Main results

* `Number.exists_unitsAt`: every significand of 53 bits is a magnitude, at every scale
* `Number.nearest_nearestMagnitude`: the rounding of the model is to the nearest magnitude
* `Number.Nearest.mono`, `Nearest.unique`, `Nearest.closest`: it is monotone and leaves no choice, and
  no magnitude is nearer
* `Number.Nearest.of_closer`: what is closer to a nearest magnitude has the same one
* `Number.Nearest.error`: by how much the rounding can be off
-/

namespace Stencil.Number

/-! ## The units of a magnitude -/

/-- The units of the numbers with a magnitude. -/
def unitsAt (magnitude : Nat) : Nat := units ⟨false, magnitude⟩

/-- The units from a magnitude to the next one. -/
def gapAt (magnitude : Nat) : Nat := Nat.pow 2 (magnitude / Nat.pow 2 52 - 1)

theorem units_eq_unitsAt (x : Number) : x.units = unitsAt x.magnitude := rfl

theorem gapAt_pos (m : Nat) : 0 < gapAt m := Nat.two_pow_pos _

/-- A significand of 53 bits at a scale. It may carry into the next binade. -/
theorem unitsAt_add {c s : Nat} (least : s = 0 ∨ 2 ^ 52 ≤ c) (most : c ≤ 2 ^ 53) :
    unitsAt (c + s * 2 ^ 52) = c * 2 ^ s := by
  simp only [unitsAt, units, significand, scale, Nat.pow_eq]
  rcases Nat.lt_or_ge c (2 ^ 52) with small | large
  · obtain rfl : s = 0 := by omega
    rw [if_pos (by omega)]
    have : (c + 0 * 2 ^ 52) / 2 ^ 52 = 0 := by omega
    rw [this]
    simp
  rcases Nat.lt_or_ge c (2 ^ 53) with normal | carry
  · rw [if_neg (by omega)]
    have rest : (c + s * 2 ^ 52) % 2 ^ 52 + 2 ^ 52 = c := by omega
    have scale : (c + s * 2 ^ 52) / 2 ^ 52 - 1 = s := by omega
    rw [rest, scale]
  · -- the carry leaves no fraction bits, and doubles the unit
    obtain rfl : c = 2 ^ 53 := by omega
    rw [if_neg (by omega)]
    have rest : (2 ^ 53 + s * 2 ^ 52) % 2 ^ 52 + 2 ^ 52 = 2 ^ 52 := by omega
    have scale : (2 ^ 53 + s * 2 ^ 52) / 2 ^ 52 - 1 = s + 1 := by omega
    rw [rest, scale, pow_succ]
    ring

/-- Every magnitude is a significand of 53 bits at a scale. -/
theorem exists_significand (m : Nat) :
    ∃ c s, m = c + s * 2 ^ 52 ∧ (s = 0 ∨ 2 ^ 52 ≤ c) ∧ c < 2 ^ 53 ∧ gapAt m = 2 ^ s := by
  refine ⟨m - (m / 2 ^ 52 - 1) * 2 ^ 52, m / 2 ^ 52 - 1, by omega, by omega, by omega, rfl⟩

theorem unitsAt_succ (m : Nat) : unitsAt (m + 1) = unitsAt m + gapAt m := by
  obtain ⟨c, s, rfl, least, most, gap⟩ := exists_significand m
  have next : c + s * 2 ^ 52 + 1 = (c + 1) + s * 2 ^ 52 := by omega
  rw [gap, next, unitsAt_add (by omega) (by omega), unitsAt_add least (by omega)]
  ring

theorem unitsAt_strictMono : StrictMono unitsAt :=
  strictMono_nat_of_lt_succ fun m => by
    rw [unitsAt_succ]
    exact Nat.lt_add_of_pos_right (gapAt_pos m)

/-- Every significand of at most 53 bits is reached at every scale. -/
theorem exists_unitsAt {c : Nat} (s : Nat) (bits : c ≤ 2 ^ 53) : ∃ m, unitsAt m = c * 2 ^ s := by
  induction s generalizing c with
  | zero => exact ⟨c + 0 * 2 ^ 52, unitsAt_add (.inl rfl) bits⟩
  | succ s ih =>
    rcases Nat.lt_or_ge c (2 ^ 52) with small | large
    · obtain ⟨m, same⟩ := ih (show 2 * c ≤ 2 ^ 53 by omega)
      exact ⟨m, by rw [same, pow_succ]; ring⟩
    · exact ⟨c + (s + 1) * 2 ^ 52, unitsAt_add (.inr large) bits⟩

/-- What has more than 53 bits above a power of two is a multiple of this power. -/
theorem two_pow_dvd_unitsAt {m e : Nat} (large : 2 ^ 52 * 2 ^ e ≤ unitsAt m) : 2 ^ e ∣ unitsAt m := by
  obtain ⟨c, s, rfl, least, most, -⟩ := exists_significand m
  rw [unitsAt_add least most.le] at large ⊢
  rcases Nat.lt_or_ge s e with less | more
  · have : 2 ^ 53 * 2 ^ s ≤ 2 ^ 52 * 2 ^ e := by
      rw [← pow_add, ← pow_add]
      exact Nat.pow_le_pow_right (by decide) (by omega)
    have : c * 2 ^ s < 2 ^ 53 * 2 ^ s := Nat.mul_lt_mul_of_pos_right most (by positivity)
    omega
  · exact Dvd.dvd.mul_left (pow_dvd_pow 2 more) c

/-- Only above a power of two is the step below narrower. -/
theorem exists_unitsAt_eq_two_pow {lower : Nat} (narrower : gapAt lower ≠ gapAt (lower + 1)) :
    ∃ e, unitsAt (lower + 1) = 2 ^ e := by
  obtain ⟨c, s, same, least, most, gap⟩ := exists_significand (lower + 1)
  have carries : c = 2 ^ 52 := by
    by_contra other
    refine narrower ?_
    obtain ⟨c', s', same', least', most', gap'⟩ := exists_significand lower
    have : s = s' := by omega
    rw [gap, gap', this]
  exact ⟨52 + s, by rw [same, unitsAt_add least most.le, carries, pow_add]⟩

theorem gapAt_mono : Monotone gapAt := fun m n le =>
  Nat.pow_le_pow_right (by decide) (Nat.sub_le_sub_right (Nat.div_le_div_right le) 1)

/-! ## The nearest whole number -/

/-- The whole number `nearestEven` is at most one half away from the quotient, and even if it is
just as far. -/
theorem nearestEven_spec (num : Nat) {den : Nat} (pos : 0 < den) :
    (2 * num ≤ (2 * nearestEven num den + 1) * den ∧
      (2 * num = (2 * nearestEven num den + 1) * den → Even (nearestEven num den))) ∧
    (2 * nearestEven num den * den ≤ 2 * num + den ∧
      (2 * nearestEven num den * den = 2 * num + den → Even (nearestEven num den))) := by
  have division := Nat.div_add_mod num den
  have rest := Nat.mod_lt num pos
  rw [nearestEven]
  -- all is linear in the rest, and the quotient times the divisor
  generalize num / den = quotient at *
  generalize num % den = remainder at *
  subst division
  split
  · next low =>
    exact ⟨⟨by linarith, fun tie => by exfalso; linarith⟩, by linarith,
      fun tie => by exfalso; linarith⟩
  split
  · next high =>
    exact ⟨⟨by linarith, fun tie => by exfalso; linarith⟩, by linarith,
      fun tie => by exfalso; linarith⟩
  · have half : 2 * remainder = den := by omega
    rcases Nat.mod_two_eq_zero_or_one quotient with even | odd
    · have isEven : Even quotient := Nat.even_iff.mpr even
      rw [even, Nat.add_zero]
      exact ⟨⟨by linarith, fun _ => isEven⟩, by linarith, fun _ => isEven⟩
    · have isEven : Even (quotient + 1) := Nat.even_iff.mpr (by omega)
      rw [odd]
      exact ⟨⟨by linarith, fun _ => isEven⟩, by linarith, fun _ => isEven⟩

/-- No other whole number is nearer to the quotient. -/
theorem nearestEven_closer (num : Nat) {den : Nat} (pos : 0 < den) (other : Nat) :
    |(nearestEven num den * den - num : ℚ)| ≤ |(other * den - num : ℚ)| := by
  obtain ⟨⟨above, -⟩, below, -⟩ := nearestEven_spec num pos
  generalize nearestEven num den = n at *
  have above : (2 * num : ℚ) ≤ (2 * n + 1) * den := by exact_mod_cast above
  have below : (2 * n * den : ℚ) ≤ 2 * num + den := by exact_mod_cast below
  have half : |(n * den - num : ℚ)| ≤ den / 2 := by
    rw [abs_le]
    constructor <;> linarith
  rcases Nat.lt_trichotomy other n with less | rfl | greater
  · have : ((other + 1 : Nat) * den : ℚ) ≤ n * den := by
      exact_mod_cast Nat.mul_le_mul_right den less
    push_cast at this
    rw [abs_sub_comm (other * den : ℚ)]
    exact half.trans ((show (den / 2 : ℚ) ≤ num - other * den by linarith).trans (le_abs_self _))
  · exact le_rfl
  · have : ((n + 1 : Nat) * den : ℚ) ≤ other * den := by
      exact_mod_cast Nat.mul_le_mul_right den greater
    push_cast at this
    exact half.trans ((show (den / 2 : ℚ) ≤ other * den - num by linarith).trans (le_abs_self _))

/-- What is nearer than one half is the nearest. -/
theorem nearestEven_eq_of_near {num den other : Nat} (pos : 0 < den)
    (near : 2 * |(other * den - num : ℚ)| < den) : nearestEven num den = other := by
  have closer := nearestEven_closer num pos other
  generalize nearestEven num den = n at *
  have positive : (0 : ℚ) < den := by exact_mod_cast pos
  obtain ⟨low, high⟩ := abs_le.mp closer
  obtain ⟨low', high'⟩ := abs_le.mp (le_refl |(other * den - num : ℚ)|)
  have less : (n * den : ℚ) < (other + 1) * den := by linarith
  have less' : (other * den : ℚ) < (n + 1) * den := by linarith
  have less : n < other + 1 := by exact_mod_cast lt_of_mul_lt_mul_right less positive.le
  have less' : other < n + 1 := by exact_mod_cast lt_of_mul_lt_mul_right less' positive.le
  omega

theorem nearestEven_mul (n : Nat) {den : Nat} (pos : 0 < den) : nearestEven (n * den) den = n :=
  nearestEven_eq_of_near pos (by
    rw [Nat.cast_mul, sub_self, abs_zero, mul_zero]
    exact_mod_cast pos)

/-! ## The nearest magnitude -/

/-- The magnitude is nearest to `q` units, and even if its neighbour is just as near. -/
structure Nearest (q : ℚ) (m : Nat) : Prop where
  above : 2 * q ≤ unitsAt m + unitsAt (m + 1)
  aboveTie : 2 * q = unitsAt m + unitsAt (m + 1) → Even m
  below : ∀ lower, lower + 1 = m → (unitsAt lower + unitsAt m : ℚ) ≤ 2 * q
  belowTie : ∀ lower, lower + 1 = m → (unitsAt lower + unitsAt m : ℚ) = 2 * q → Even m

/-- The magnitude nearest to a quotient, in an unbounded range of magnitudes. -/
def nearestMagnitude (num den : Nat) : Nat :=
  let scale := (num / den).log2 + 1 - 53
  nearestEven num (den * Nat.pow 2 scale) + scale * Nat.pow 2 52

section Quotient

variable {num den : Nat} (pos : 0 < den) (bound : Nat)
include pos

theorem two_mul_div_le_iff : 2 * (num / den : ℚ) ≤ bound ↔ 2 * num ≤ bound * den := by
  have positive : (0 : ℚ) < den := by exact_mod_cast pos
  rw [← mul_div_assoc, div_le_iff₀ positive]
  exact_mod_cast Iff.rfl

theorem le_two_mul_div_iff : (bound : ℚ) ≤ 2 * (num / den) ↔ bound * den ≤ 2 * num := by
  have positive : (0 : ℚ) < den := by exact_mod_cast pos
  rw [← mul_div_assoc, le_div_iff₀ positive]
  exact_mod_cast Iff.rfl

theorem two_mul_div_eq_iff : 2 * (num / den : ℚ) = bound ↔ 2 * num = bound * den := by
  rw [le_antisymm_iff, le_antisymm_iff, two_mul_div_le_iff pos, le_two_mul_div_iff pos]

end Quotient

section Scale

variable {num den s c : Nat}

/-- The significand nearest to a quotient in the range of a scale has 53 bits, or carries. -/
theorem nearestEven_bits (pos : 0 < den) (least : s = 0 ∨ 2 ^ 52 * (den * 2 ^ s) ≤ num)
    (most : num < 2 ^ 53 * (den * 2 ^ s)) :
    (s = 0 ∨ 2 ^ 52 ≤ nearestEven num (den * 2 ^ s)) ∧ nearestEven num (den * 2 ^ s) ≤ 2 ^ 53 := by
  have unit : 0 < den * 2 ^ s := by positivity
  obtain ⟨⟨above, -⟩, below, -⟩ := nearestEven_spec num unit
  generalize nearestEven num (den * 2 ^ s) = c at *
  constructor
  · refine least.imp_right fun least => ?_
    by_contra small
    have : (2 * c + 1) * (den * 2 ^ s) ≤ (2 * 2 ^ 52 - 1) * (den * 2 ^ s) :=
      Nat.mul_le_mul_right _ (by omega)
    have : (2 * 2 ^ 52 - 1) * (den * 2 ^ s) < 2 * 2 ^ 52 * (den * 2 ^ s) :=
      Nat.mul_lt_mul_of_pos_right (by norm_num) unit
    omega
  · by_contra large
    have : (2 * 2 ^ 53 + 2) * (den * 2 ^ s) ≤ 2 * c * (den * 2 ^ s) :=
      Nat.mul_le_mul_right _ (by omega)
    omega

/-- What is at most half a step above a significand is in the upper half of the interval around its
magnitude. -/
theorem upper_half_of_scale (pos : 0 < den) (most : num < 2 ^ 53 * (den * 2 ^ s))
    (low : s = 0 ∨ 2 ^ 52 ≤ c) (high : c ≤ 2 ^ 53)
    (above : 2 * num ≤ (2 * c + 1) * (den * 2 ^ s) ∧
      (2 * num = (2 * c + 1) * (den * 2 ^ s) → Even c)) :
    2 * num ≤ (unitsAt (c + s * 2 ^ 52) + unitsAt (c + s * 2 ^ 52 + 1)) * den ∧
      (2 * num = (unitsAt (c + s * 2 ^ 52) + unitsAt (c + s * 2 ^ 52 + 1)) * den → Even c) := by
  have units : unitsAt (c + s * 2 ^ 52) = c * 2 ^ s := unitsAt_add low high
  rcases Nat.eq_or_lt_of_le high with carries | normal
  · have : num < c * 2 ^ s * den := by
      rw [carries]
      linarith
    have : unitsAt (c + s * 2 ^ 52) * den < unitsAt (c + s * 2 ^ 52 + 1) * den :=
      Nat.mul_lt_mul_of_pos_right (unitsAt_strictMono (Nat.lt_succ_self _)) pos
    rw [units] at this ⊢
    exact ⟨by linarith, fun tie => by exfalso; linarith⟩
  · have next : unitsAt (c + s * 2 ^ 52 + 1) = (c + 1) * 2 ^ s := by
      rw [Nat.add_right_comm]
      exact unitsAt_add (by omega) (by omega)
    rw [units, next]
    exact ⟨by linarith [above.1], fun tie => above.2 (by linarith)⟩

/-- What is at most half a step below a significand is in the lower half of the interval around its
magnitude. -/
theorem lower_half_of_scale (pos : 0 < den) (least : s = 0 ∨ 2 ^ 52 * (den * 2 ^ s) ≤ num)
    (low : s = 0 ∨ 2 ^ 52 ≤ c) (high : c ≤ 2 ^ 53)
    (below : 2 * c * (den * 2 ^ s) ≤ 2 * num + den * 2 ^ s ∧
      (2 * c * (den * 2 ^ s) = 2 * num + den * 2 ^ s → Even c))
    {m : Nat} (before : m + 1 = c + s * 2 ^ 52) :
    (unitsAt m + unitsAt (c + s * 2 ^ 52)) * den ≤ 2 * num ∧
      ((unitsAt m + unitsAt (c + s * 2 ^ 52)) * den = 2 * num → Even c) := by
  have units : unitsAt (c + s * 2 ^ 52) = c * 2 ^ s := unitsAt_add low high
  by_cases normal : s = 0 ∨ 2 ^ 52 < c
  · obtain ⟨d, rfl⟩ : ∃ d, c = d + 1 := ⟨c - 1, by omega⟩
    obtain rfl : m = d + s * 2 ^ 52 := by omega
    have step : unitsAt (d + s * 2 ^ 52) = d * 2 ^ s := unitsAt_add (by omega) (by omega)
    rw [units, step]
    exact ⟨by linarith [below.1], fun tie => below.2 (by linarith)⟩
  · -- below the least significand of a scale the quotient does not reach
    have : unitsAt m * den < unitsAt (c + s * 2 ^ 52) * den :=
      Nat.mul_lt_mul_of_pos_right (unitsAt_strictMono (by omega)) pos
    obtain rfl : c = 2 ^ 52 := by omega
    have := least.resolve_left (by omega)
    rw [units] at *
    exact ⟨by linarith, fun tie => by exfalso; linarith⟩

/-- The nearest significand at a scale gives a nearest magnitude, if the quotient is in the range of
this scale. -/
theorem nearest_of_scale (pos : 0 < den) (least : s = 0 ∨ 2 ^ 52 * (den * 2 ^ s) ≤ num)
    (most : num < 2 ^ 53 * (den * 2 ^ s)) :
    Nearest (num / den) (nearestEven num (den * 2 ^ s) + s * 2 ^ 52) := by
  obtain ⟨low, high⟩ := nearestEven_bits pos least most
  obtain ⟨above, below⟩ := nearestEven_spec num (show 0 < den * 2 ^ s by positivity)
  generalize nearestEven num (den * 2 ^ s) = c at *
  have even : Even (c + s * 2 ^ 52) ↔ Even c := by
    simp only [Nat.even_iff]
    omega
  have cast_add (a b : Nat) : ((a : ℚ) + b) = ((a + b : Nat) : ℚ) := (Nat.cast_add a b).symm
  have upper := upper_half_of_scale pos most low high above
  refine ⟨?_, ?_, fun m before => ?_, fun m before => ?_⟩
  · rw [cast_add, two_mul_div_le_iff pos]
    exact upper.1
  · rw [cast_add, two_mul_div_eq_iff pos, even]
    exact upper.2
  · rw [cast_add, le_two_mul_div_iff pos]
    exact (lower_half_of_scale pos least low high below before).1
  · rw [cast_add, eq_comm, two_mul_div_eq_iff pos, even, eq_comm]
    exact (lower_half_of_scale pos least low high below before).2

end Scale

/-- **The rounding is to a nearest magnitude**, with ties to even. -/
theorem nearest_nearestMagnitude (num : Nat) {den : Nat} (pos : 0 < den) :
    Nearest (num / den) (nearestMagnitude num den) := by
  have log_lt : num / den < 2 ^ ((num / den).log2 + 1) := Nat.lt_log2_self
  have le_log : num / den ≠ 0 → 2 ^ (num / den).log2 ≤ num / den := Nat.log2_self_le
  have log_zero : num / den = 0 → (num / den).log2 = 0 := fun zero => by rw [zero]; rfl
  rw [nearestMagnitude]
  generalize (num / den).log2 = log at *
  rw [Nat.div_lt_iff_lt_mul pos] at log_lt
  rcases Nat.lt_or_ge log 53 with small | large
  · have scale : log + 1 - 53 = 0 := by omega
    have bits : 2 ^ (log + 1) ≤ 2 ^ 53 := Nat.pow_le_pow_right (by decide) (by omega)
    have most := log_lt.trans_le (Nat.mul_le_mul_right den bits)
    rw [scale]
    exact nearest_of_scale pos (.inl rfl) (by linarith)
  · obtain ⟨s, rfl⟩ : ∃ s, log = 52 + s := ⟨log - 52, by omega⟩
    have nonzero : num / den ≠ 0 := fun zero => by have := log_zero zero; omega
    have least := (Nat.le_div_iff_mul_le pos).mp (le_log nonzero)
    have scale : 52 + s + 1 - 53 = s := by omega
    rw [scale]
    have bits : 2 ^ (52 + s + 1) = 2 ^ 53 * 2 ^ s := by rw [← pow_add]; congr 1; omega
    rw [pow_add] at least
    rw [bits] at log_lt
    exact nearest_of_scale pos (.inr (by linarith)) (by linarith)

namespace Nearest

variable {q z : ℚ} {m n : Nat}

/-- **The nearest magnitude is monotone** in what is rounded. -/
theorem mono (h : Nearest q m) (h' : Nearest z n) (le : q ≤ z) : m ≤ n := by
  by_contra less
  obtain ⟨lower, rfl⟩ : ∃ lower, m = lower + 1 := ⟨m - 1, by omega⟩
  have below := h.below lower rfl
  have above := h'.above
  have step : (unitsAt n : ℚ) ≤ unitsAt lower := by
    exact_mod_cast unitsAt_strictMono.monotone (by omega)
  have step' : (unitsAt (n + 1) : ℚ) ≤ unitsAt (lower + 1) := by
    exact_mod_cast unitsAt_strictMono.monotone (by omega)
  -- both quotients lie in the middle between two neighbours, of which only one is even
  have same : (unitsAt n : ℚ) = unitsAt lower := by linarith
  obtain rfl : n = lower := unitsAt_strictMono.injective (by exact_mod_cast same)
  have even := h.belowTie n rfl (by linarith)
  have even' := h'.aboveTie (by linarith)
  rw [Nat.even_iff] at even even'
  omega

/-- There is one nearest magnitude. -/
theorem unique (h : Nearest q m) (h' : Nearest q n) : m = n :=
  le_antisymm (h.mono h' le_rfl) (h'.mono h le_rfl)

/-- What a magnitude stands for is rounded to this magnitude. -/
theorem unitsAt_self (m : Nat) : Nearest (unitsAt m) m := by
  have upper : (unitsAt m : ℚ) < unitsAt (m + 1) := by
    exact_mod_cast unitsAt_strictMono (Nat.lt_succ_self m)
  refine ⟨by linarith, fun tie => by exfalso; linarith, ?_, ?_⟩
  all_goals
    rintro lower rfl
    have : (unitsAt lower : ℚ) < unitsAt (lower + 1) := by
      exact_mod_cast unitsAt_strictMono (Nat.lt_succ_self lower)
  · linarith
  · intro tie
    exfalso
    linarith

theorem le_of_le (h : Nearest q m) (le : q ≤ unitsAt n) : m ≤ n := h.mono (unitsAt_self n) le

theorem ge_of_ge (h : Nearest q m) (le : unitsAt n ≤ q) : n ≤ m := (unitsAt_self n).mono h le

/-- Nothing is rounded to nothing. -/
theorem eq_zero (h : Nearest 0 m) : m = 0 :=
  Nat.le_zero.mp (h.le_of_le (Nat.cast_nonneg (unitsAt 0)))

/-- A lower bound of 53 bits is kept, at whatever scale it is. -/
theorem significand_le (h : Nearest q m) {c : Nat} (s : Nat) (bits : c ≤ 2 ^ 53)
    (le : (c * 2 ^ s : Nat) ≤ q) : c * 2 ^ s ≤ unitsAt m := by
  obtain ⟨n, same⟩ := exists_unitsAt s bits
  rw [← same] at le ⊢
  exact unitsAt_strictMono.monotone (h.ge_of_ge le)

/-- An upper bound of 53 bits is kept, at whatever scale it is. -/
theorem le_significand (h : Nearest q m) {c : Nat} (s : Nat) (bits : c ≤ 2 ^ 53)
    (le : q ≤ (c * 2 ^ s : Nat)) : unitsAt m ≤ c * 2 ^ s := by
  obtain ⟨n, same⟩ := exists_unitsAt s bits
  rw [← same] at le ⊢
  exact unitsAt_strictMono.monotone (h.le_of_le le)

/-- **No magnitude is nearer.** -/
theorem closest (h : Nearest q m) (n : Nat) : |unitsAt m - q| ≤ |unitsAt n - q| := by
  rcases Nat.lt_trichotomy n m with less | rfl | greater
  · obtain ⟨lower, rfl⟩ : ∃ lower, m = lower + 1 := ⟨m - 1, by omega⟩
    have below := h.below lower rfl
    have here : (unitsAt n : ℚ) ≤ unitsAt lower := by
      exact_mod_cast unitsAt_strictMono.monotone (by omega)
    have there : (unitsAt lower : ℚ) < unitsAt (lower + 1) := by
      exact_mod_cast unitsAt_strictMono (Nat.lt_succ_self lower)
    rw [abs_sub_comm (unitsAt n : ℚ), abs_of_nonneg (by linarith : (0 : ℚ) ≤ q - unitsAt n), abs_le]
    constructor <;> linarith
  · exact le_rfl
  · have above := h.above
    have here : (unitsAt m : ℚ) < unitsAt (m + 1) := by
      exact_mod_cast unitsAt_strictMono (Nat.lt_succ_self m)
    have there : (unitsAt (m + 1) : ℚ) ≤ unitsAt n := by
      exact_mod_cast unitsAt_strictMono.monotone (by omega)
    rw [abs_of_nonneg (by linarith : (0 : ℚ) ≤ unitsAt n - q), abs_le]
    constructor <;> linarith

theorem cast_unitsAt_succ (m : Nat) : (unitsAt (m + 1) : ℚ) = unitsAt m + gapAt m := by
  exact_mod_cast unitsAt_succ m

/-- On the side of the greater magnitudes, where the steps are no narrower. -/
theorem above_of_closer (h : Nearest q m) (nonneg : 0 ≤ q)
    (closer : |z - unitsAt m| ≤ |q - unitsAt m|) :
    2 * z ≤ unitsAt m + unitsAt (m + 1) ∧ (2 * z = unitsAt m + unitsAt (m + 1) → Even m) := by
  have near := (abs_le.mp closer).2
  rcases le_or_gt (unitsAt m : ℚ) q with right | left
  · rw [abs_of_nonneg (by linarith)] at near
    have above := h.above
    exact ⟨by linarith, fun tie => h.aboveTie (by linarith)⟩
  · -- from the other side, where the step is at most as wide
    rw [abs_of_neg (by linarith)] at near
    cases m with
    | zero =>
      have : (unitsAt 0 : ℚ) = 0 := by norm_num [unitsAt, units, significand]
      exfalso
      linarith
    | succ lower =>
      have below := h.below lower rfl
      have step := cast_unitsAt_succ lower
      have step' := cast_unitsAt_succ (lower + 1)
      have wider : (gapAt lower : ℚ) ≤ gapAt (lower + 1) := by
        exact_mod_cast gapAt_mono (Nat.le_succ lower)
      exact ⟨by linarith, fun tie => h.belowTie lower rfl (by linarith)⟩

/-- On the side of the smaller magnitudes, where the steps are as wide unless the magnitude is that
of a power of two. -/
theorem below_of_closer (h : Nearest q m) (closer : |z - unitsAt m| ≤ |q - unitsAt m|)
    (level : z < unitsAt m → unitsAt m < q → ∀ lower, lower + 1 = m → gapAt lower = gapAt m)
    {lower : Nat} (next : lower + 1 = m) :
    (unitsAt lower + unitsAt m : ℚ) ≤ 2 * z ∧
      ((unitsAt lower + unitsAt m : ℚ) = 2 * z → Even m) := by
  have near := (abs_le.mp closer).1
  have step := cast_unitsAt_succ lower
  have positive : (0 : ℚ) < gapAt lower := by exact_mod_cast gapAt_pos lower
  rw [next] at step
  rcases le_or_gt q (unitsAt m) with left | right
  · rw [abs_of_nonpos (by linarith)] at near
    have below := h.below lower next
    exact ⟨by linarith, fun tie => h.belowTie lower next (by linarith)⟩
  · rw [abs_of_pos (by linarith)] at near
    rcases lt_or_ge z (unitsAt m) with inside | outside
    · have above := h.above
      have step' := cast_unitsAt_succ m
      have same : (gapAt lower : ℚ) = gapAt m := by exact_mod_cast level inside right lower next
      exact ⟨by linarith, fun tie => h.aboveTie (by linarith)⟩
    · exact ⟨by linarith, fun tie => by exfalso; linarith⟩

/-- **What is closer to a nearest magnitude** is rounded to it too. Only above a power of two, where
the steps below are half as wide, this does not reach from one side to the other. -/
theorem of_closer (h : Nearest q m) (nonneg : 0 ≤ q) (closer : |z - unitsAt m| ≤ |q - unitsAt m|)
    (level : z < unitsAt m → unitsAt m < q → ∀ lower, lower + 1 = m → gapAt lower = gapAt m) :
    Nearest z m where
  above := (h.above_of_closer nonneg closer).1
  aboveTie := (h.above_of_closer nonneg closer).2
  below _ next := (h.below_of_closer closer level next).1
  belowTie _ next := (h.below_of_closer closer level next).2

/-- The magnitude is off by at most the half of its last place. -/
theorem error (h : Nearest q m) (normal : 2 ^ 53 ≤ q) : |unitsAt m - q| * 2 ^ 53 ≤ q := by
  have fine (n : Nat) (large : 2 ^ 52 ≤ n) : (2 ^ 52 * gapAt n : ℚ) ≤ unitsAt n := by
    obtain ⟨c, s, same, least, most, gap⟩ := exists_significand n
    have : 2 ^ 52 * gapAt n ≤ unitsAt n := by
      rw [gap, same, unitsAt_add least most.le]
      exact Nat.mul_le_mul_right _ (by omega)
    exact_mod_cast this
  have least : unitsAt (2 ^ 53) = 2 ^ 53 :=
    unitsAt_add (.inl rfl : 0 = 0 ∨ 2 ^ 52 ≤ 2 ^ 53) le_rfl
  have normal' : 2 ^ 53 ≤ m := h.ge_of_ge (by rw [least]; exact_mod_cast normal)
  rcases le_or_gt (unitsAt m : ℚ) q with right | left
  · rw [abs_of_nonpos (by linarith)]
    have above := h.above
    rw [cast_unitsAt_succ] at above
    have := fine m (by omega)
    linarith
  · rw [abs_of_pos (by linarith)]
    obtain ⟨lower, rfl⟩ : ∃ lower, m = lower + 1 := ⟨m - 1, by omega⟩
    have below := h.below lower rfl
    rw [cast_unitsAt_succ] at below left ⊢
    have := fine lower (by omega)
    linarith

end Nearest

end Stencil.Number
