import Mathlib.Order.Compare
import Mathlib.Data.Int.Order.Basic
import Stencil.Proofs.Expr.Comparison

/-!
# Equality and order of numbers

Equality overlooks a few representable steps, so that a computed total equals the number it was
meant to be, while the order of two numbers is that of their exact values. The two go together for
numbers that are the same or far apart. Two different numbers within the tolerated steps are equal
and ordered at once, and "at most" follows the order alone.

Steps are counted in the order of bit patterns. There the patterns of a negative zero and of a zero
are neighbours, so one step more than to the same magnitude leads across zero: two numbers of
different signs are as far apart as both are from zero, and one step further. The difference of two
patterns wraps around, but the patterns of not-a-number keep the two infinities apart.

## Main definitions

* `Number.rank`: the place of a bit pattern in the order of all patterns
* `Number.AreNeighbours a b`: different numbers that count as equal

## Main results

* `Number.compare?_eq_some`: the order of two numbers
* `Number.withinSteps_iff`: closeness of two numbers, by the places of their patterns
* `Expr.number_comparisons`: equality and order of the numbers that two expressions stand for
-/

namespace Stencil

namespace Number

/-- The place of a bit pattern in the order of all patterns, counted from zero. The numbers from
zero on have the places 0, 1, 2 and so on, and those from the negative zero down the places -1, -2
and so on. -/
def rank (x : Number) : Int := if x.negative then -(x.magnitude : Int) - 1 else x.magnitude

/-- The numbers are different, and at most so many steps apart that they count as equal. -/
def AreNeighbours (a b : Number) : Prop :=
  a.place ≠ b.place ∧ (a.rank - b.rank).natAbs ≤ Value.equalitySteps

instance (a b : Number) : Decidable (AreNeighbours a b) :=
  inferInstanceAs (Decidable (_ ∧ _))

variable {a b : Number}

theorem le_infinityMagnitude (ha : a.isNaN = false) : a.magnitude ≤ infinityMagnitude := by
  rw [isNaN, decide_eq_false_iff_not] at ha
  exact Nat.le_of_not_lt ha

theorem toNat_pattern (ha : a.isNaN = false) :
    a.pattern.toNat = a.magnitude + if a.negative then Width.size 63 else 0 := by
  have bound := le_infinityMagnitude ha
  rw [pattern, BitVec.toNat_ofNat]
  simp only [infinityMagnitude, Width.size, Nat.pow_eq, Nat.reducePow] at *
  split <;> omega

/-- An ordered pattern as a natural number: half of all patterns come before that of zero. -/
theorem toNat_orderedPattern (ha : a.isNaN = false) :
    (a.orderedPattern.toNat : Int) = a.rank + Width.size 63 := by
  have bound := le_infinityMagnitude ha
  have same := toNat_pattern ha
  simp only [infinityMagnitude, Width.size, Nat.pow_eq, Nat.reducePow] at bound same ⊢
  rw [orderedPattern, rank]
  split
  · next negative =>
    rw [if_pos negative] at same
    rw [BitVec.toNat_not, same]
    omega
  · next positive =>
    rw [if_neg positive] at same
    rw [BitVec.toNat_add, BitVec.toNat_intMin, same]
    omega

section Ordered

variable (ha : a.isNaN = false) (hb : b.isNaN = false)
include ha hb

/-- **The order of two numbers** is the order of their places. -/
theorem compare?_eq_some : compare? a b = some (compare a.place b.place) := by
  rw [compare?, ha, hb]
  rfl

theorem sameValue_iff : a.sameValue b = true ↔ a.place = b.place := by
  rw [sameValue, ha, hb]
  exact beq_iff_eq

/-- **The difference of two patterns**, if it is small, is that of their places. -/
theorem natAbs_orderedPattern_sub_le_iff {steps : Nat} (few : steps < Width.size 52) :
    (a.orderedPattern - b.orderedPattern).toInt.natAbs ≤ steps ↔
      (a.rank - b.rank).natAbs ≤ steps := by
  have bound := le_infinityMagnitude ha
  have bound' := le_infinityMagnitude hb
  have near : a.rank.natAbs ≤ a.magnitude + 1 := by rw [rank]; split <;> omega
  have near' : b.rank.natAbs ≤ b.magnitude + 1 := by rw [rank]; split <;> omega
  rw [BitVec.toInt_sub, BitVec.toInt_eq_toNat_bmod, BitVec.toInt_eq_toNat_bmod,
    toNat_orderedPattern ha, toNat_orderedPattern hb]
  simp only [infinityMagnitude, Width.size, Nat.pow_eq, Int.bmod, Nat.reducePow] at *
  omega

/-- **Two numbers are close** if they are the same, or have places that are at most so many steps
apart. -/
theorem withinSteps_iff {steps : Nat} (few : steps < Width.size 52) :
    a.withinSteps steps b = true ↔ a.place = b.place ∨ (a.rank - b.rank).natAbs ≤ steps := by
  rw [withinSteps, Bool.or_eq_true, sameValue_iff ha hb, decide_eq_true_iff,
    natAbs_orderedPattern_sub_le_iff ha hb few]

/-- **Numbers count as equal** if they are the same or neighbours. -/
theorem withinSteps_equalitySteps_iff :
    a.withinSteps Value.equalitySteps b = true ↔ a.place = b.place ∨ a.AreNeighbours b := by
  rw [withinSteps_iff ha hb (by decide)]
  exact or_congr_right' fun differs => (and_iff_right differs).symm

end Ordered

/-- Around zero, the least numbers of both signs are equal, and the next ones are not. -/
example : withinSteps Value.equalitySteps ⟨true, 1⟩ ⟨false, 1⟩ = true ∧
    withinSteps Value.equalitySteps ⟨true, 2⟩ ⟨false, 2⟩ = false := by
  decide

end Number

/-- The order of two numbers that stand for themselves. -/
theorem Value.compare?_number (a b : Number) :
    Value.compare? (.number a) (.number b) = Number.compare? a b := rfl

namespace Expr

section Numbers

variable {lookup : Lookup} {left right : Expr} {a b : Number}
  (first : left.eval lookup = .ok (.number a)) (second : right.eval lookup = .ok (.number b))
include first second

/-- **Equality of two numbers** is closeness. -/
theorem eval_eq_of_numbers :
    (binary .eq left right).eval lookup = .ok (.bool (a.withinSteps Value.equalitySteps b)) :=
  eval_binary (by decide) first second

/-- **An ordering operator** goes by the places of two numbers. -/
theorem eval_ordering_of_numbers (ha : a.isNaN = false) (hb : b.isNaN = false) {op : BinaryOp}
    (h : op ∈ BinaryOp.orderings) :
    (binary op left right).eval lookup = .ok (.bool (op.admits (compare a.place b.place))) := by
  have compares : op ∈ BinaryOp.comparisons := List.mem_cons_of_mem _ (List.mem_cons_of_mem _ h)
  rw [eval_binary (BinaryOp.strict_of_mem_comparisons compares) first second,
    BinaryOp.apply_of_mem_orderings h, BinaryOp.ordering, Value.compare?_number,
    Number.compare?_eq_some ha hb]

/-- **Equality and order of numbers.** Let two expressions stand for numbers. They are equal exactly
if the numbers are the same or neighbours. Exactly one of "less", "equal" and "greater" is true,
unless the numbers are neighbours: these are equal, and also ordered in one of the two ways. "At
most" is true exactly if the first number is less or both are the same number. So it is true exactly
if the first number is less or equal, except for neighbours of which the first is the greater
one. -/
theorem number_comparisons (ha : a.isNaN = false) (hb : b.isNaN = false) :
    ∃ less equal greater atMost,
      (binary .lt left right).eval lookup = .ok (.bool less) ∧
      (binary .eq left right).eval lookup = .ok (.bool equal) ∧
      (binary .gt left right).eval lookup = .ok (.bool greater) ∧
      (binary .ltEq left right).eval lookup = .ok (.bool atMost) ∧
      (equal = true ↔ a.sameValue b = true ∨ a.AreNeighbours b) ∧
      ([less, equal, greater].count true = 1 ↔ ¬ a.AreNeighbours b) ∧
      (a.AreNeighbours b → equal = true ∧ greater = !less) ∧
      (atMost = true ↔ less = true ∨ a.sameValue b = true) ∧
      ((atMost = true ↔ less = true ∨ equal = true) ↔
        ¬ (a.AreNeighbours b ∧ greater = true)) := by
  have ordered {op : BinaryOp} (h : op ∈ BinaryOp.orderings) :=
    eval_ordering_of_numbers first second ha hb h
  have equals := Number.withinSteps_equalitySteps_iff ha hb
  refine ⟨_, _, _, _, ordered (by decide), eval_eq_of_numbers first second, ordered (by decide),
    ordered (by decide), ?_⟩
  rw [Number.sameValue_iff ha hb]
  generalize a.withinSteps Value.equalitySteps b = equal at equals
  rcases lt_trichotomy a.place b.place with less | same | greater
  · rw [compare_lt_iff_lt.mpr less]
    simp only [less.ne, false_or] at equals ⊢
    cases equal <;> simp [BinaryOp.admits, ← equals]
  · have apart : ¬ a.AreNeighbours b := fun near => near.1 same
    obtain rfl : equal = true := equals.mpr (.inl same)
    rw [compare_eq_iff_eq.mpr same]
    simp [BinaryOp.admits, same, apart]
  · rw [compare_gt_iff_gt.mpr greater]
    simp only [greater.ne', false_or] at equals ⊢
    cases equal <;> simp [BinaryOp.admits, ← equals]

end Numbers

/-- A computed total, one step above the number it was meant to be. -/
theorem number_comparisons_of_total :
    let tenths (n : Nat) : Number := Number.ofDecimal false ⟨n, 1⟩
    let sum : Number := (tenths 1).add (tenths 2)
    let total : Expr := binary .add (literal (.number (tenths 1))) (literal (.number (tenths 2)))
    let meant : Expr := literal (.number (tenths 3))
    let lookup : Lookup := Scope.lookup []
    total.eval lookup = .ok (.number sum) ∧ meant.eval lookup = .ok (.number (tenths 3)) ∧
      sum.isNaN = false ∧ (tenths 3).isNaN = false ∧ sum.AreNeighbours (tenths 3) ∧
      (binary .eq total meant).eval lookup = .ok (.bool true) ∧
      ∃ less, (binary .lt total meant).eval lookup = .ok (.bool less) ∧
        (binary .gt total meant).eval lookup = .ok (.bool !less) := by
  intro tenths sum total meant lookup
  have strict : BinaryOp.add ≠ .and ∧ BinaryOp.add ≠ .or := by decide
  have first : total.eval lookup = .ok (.number sum) :=
    calc total.eval lookup
        = BinaryOp.add.apply (.number (tenths 1)) (.number (tenths 2)) :=
          eval_binary strict rfl rfl
      _ = .ok (.number sum) := rfl
  have second : meant.eval lookup = .ok (.number (tenths 3)) := rfl
  have known : sum.isNaN = false ∧ (tenths 3).isNaN = false ∧ sum.AreNeighbours (tenths 3) := by
    decide +kernel
  obtain ⟨less, equal, greater, -, lt, eq, gt, -, -, -, near, -⟩ :=
    number_comparisons first second known.1 known.2.1
  obtain ⟨rfl, rfl⟩ := near known.2.2
  exact ⟨first, second, known.1, known.2.1, known.2.2, eq, less, lt, gt⟩

/-- **Neighbours are equal and ordered at once**: one is less than the next number and equal to it,
and the next number is equal to one and not at most one. -/
theorem neighbours_equal_and_ordered :
    let one : Number := Number.ofNat 1
    let next : Number := ⟨false, one.magnitude + 1⟩
    let lookup : Lookup := Scope.lookup [("a".toList, .number one), ("b".toList, .number next)]
    one.isNaN = false ∧ next.isNaN = false ∧
      (Condition.holds lookup "a < b && a == b".toList).toOption = some true ∧
      (Condition.holds lookup "b == a && !(b <= a)".toList).toOption = some true := by
  decide +kernel

end Expr

end Stencil
