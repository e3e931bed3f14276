import Stencil.Number.Width

/-!
# Numbers

Numbers are IEEE 754 binary64 values. A number is its sign together with its magnitude,
the bit pattern without the sign bit; magnitudes are ordered as the values they encode.
Every finite value is a whole multiple of the smallest positive one, `2 ^ -1074`, which is
called a unit here. So all arithmetic is exact arithmetic on units followed by one
rounding to the nearest magnitude.

## Main definitions

* `Number`: sign and magnitude
* `Number.units`: the exact absolute value of a finite number, in units
* `Number.ofUnits`: the nearest number to an exact quotient of units, ties to even
* `Number.add`, `sub`, `mul`, `div`, `rem`, `neg`, `abs`, `round`: arithmetic
* `Number.compare?`, `Number.sameValue`: comparison
* `Number.orderedPattern`, `Number.withinSteps`: equality up to a few steps

## Main results

* `Number.compare?_swap`: swapping the operands swaps the order
* `Number.withinSteps_comm`: closeness is symmetric
-/

namespace Stencil

/-- A binary64 value: its sign, and its bit pattern without the sign bit. -/
structure Number where
  /-- Whether the sign bit is set. -/
  negative : Bool
  /-- The bit pattern without the sign bit. -/
  magnitude : Nat
  deriving DecidableEq, Repr, Inhabited

namespace Number

/-! ### Shape of a magnitude -/

/-- The magnitude of the infinities; those of not-a-number lie above it. -/
def infinityMagnitude : Nat := 2047 * Nat.pow 2 52

/-- Positive or negative infinity. -/
def infinity (negative : Bool) : Number := ⟨negative, infinityMagnitude⟩

/-- The quiet not-a-number with a given sign. -/
def nan (negative : Bool) : Number := ⟨negative, infinityMagnitude + Nat.pow 2 51⟩

/-- Positive zero. -/
def zero : Number := ⟨false, 0⟩

/-- Whether this is not a number. -/
def isNaN (x : Number) : Bool := decide (infinityMagnitude < x.magnitude)

/-- Whether this is neither infinite nor not-a-number. -/
def isFinite (x : Number) : Bool := decide (x.magnitude < infinityMagnitude)

/-- Whether this is positive or negative zero. -/
def isZero (x : Number) : Bool := x.magnitude == 0

/-- The significand: the fraction bits, with the leading bit of a normal number. -/
def significand (x : Number) : Nat :=
  if x.magnitude < Nat.pow 2 52 then x.magnitude
  else x.magnitude % Nat.pow 2 52 + Nat.pow 2 52

/-- The power of two, in units, by which the significand counts. -/
def scale (x : Number) : Nat := x.magnitude / Nat.pow 2 52 - 1

/-- The number of units in one. -/
def unitsPerOne : Nat := Nat.pow 2 1074

/-- The exact absolute value of a finite number, in units. -/
def units (x : Number) : Nat := x.significand * Nat.pow 2 x.scale

/-- The exact value of a finite number, in units. -/
def signedUnits (x : Number) : Int := if x.negative then -(x.units : Int) else x.units

/-! ### Rounding -/

/-- The whole number nearest to `num / den`; a tie goes to the even one. -/
def nearestEven (num den : Nat) : Nat :=
  let quotient := num / den
  let rest := num % den
  if 2 * rest < den then quotient
  else if den < 2 * rest then quotient + 1
  else quotient + quotient % 2

/-- The magnitude nearest to `num / den` units, ties to the even significand. A
significand has 53 bits; one that rounds up to `2 ^ 53` carries into the next binade. -/
def roundMagnitude (num den : Nat) : Nat :=
  let scale := (num / den).log2 + 1 - 53
  min (nearestEven num (den * Nat.pow 2 scale) + scale * Nat.pow 2 52) infinityMagnitude

/-- The number nearest to `num / den` units with a given sign. -/
def ofUnits (negative : Bool) (num den : Nat) : Number :=
  ⟨negative, roundMagnitude num den⟩

/-- The number nearest to a whole count of units; zero is positive. -/
def ofSignedUnits (units : Int) : Number :=
  ofUnits (units < 0) units.natAbs 1

/-- The number nearest to an integer. -/
def ofInt (n : Int) : Number :=
  ofSignedUnits (n * unitsPerOne)

/-- The number nearest to a natural number. -/
def ofNat (n : Nat) : Number := ofInt n

/-! ### Arithmetic -/

/-- The number with its sign turned. -/
def neg (x : Number) : Number := ⟨!x.negative, x.magnitude⟩

/-- The number without its sign. -/
def abs (x : Number) : Number := ⟨false, x.magnitude⟩

/-- The result where an operand is not a number: the first such operand, or else a fresh
one, whose sign bit is set. -/
def nanOf (x y : Number) : Number :=
  if x.isNaN then x else if y.isNaN then y else nan true

/-- Sum. Only two negative zeros add up to a negative zero. -/
def add (x y : Number) : Number :=
  if x.isNaN || y.isNaN then nanOf x y
  else if !x.isFinite then
    if !y.isFinite && x.negative != y.negative then nanOf x y else x
  else if !y.isFinite then y
  else
    let sum := x.signedUnits + y.signedUnits
    if sum = 0 then ⟨x.negative && y.negative, 0⟩ else ofSignedUnits sum

/-- Difference. -/
def sub (x y : Number) : Number :=
  if y.isNaN then nanOf x y else add x (neg y)

/-- Product. -/
def mul (x y : Number) : Number :=
  let negative := x.negative != y.negative
  if x.isNaN || y.isNaN then nanOf x y
  else if !x.isFinite || !y.isFinite then
    if x.isZero || y.isZero then nanOf x y else infinity negative
  else ofUnits negative (x.units * y.units) unitsPerOne

/-- Quotient. -/
def div (x y : Number) : Number :=
  let negative := x.negative != y.negative
  if x.isNaN || y.isNaN then nanOf x y
  else if !x.isFinite then
    if !y.isFinite then nanOf x y else infinity negative
  else if !y.isFinite then ⟨negative, 0⟩
  else if y.isZero then
    if x.isZero then nanOf x y else infinity negative
  else ofUnits negative (x.units * unitsPerOne) y.units

/-- Remainder of the quotient cut toward zero. It is exact and has the sign of the
dividend. -/
def rem (x y : Number) : Number :=
  if x.isNaN || y.isNaN then nanOf x y
  else if !x.isFinite || y.isZero then nanOf x y
  else if !y.isFinite then x
  else ofUnits x.negative (x.units % y.units) 1

/-- The nearest whole number; a tie goes away from zero. -/
def round (x : Number) : Number :=
  if x.isFinite then
    ofUnits x.negative ((2 * x.units + unitsPerOne) / (2 * unitsPerOne) * unitsPerOne) 1
  else x

/-- The integer part, kept between `-2 ^ 63` and `2 ^ 63 - 1`; zero for not-a-number. -/
def toInt64 (x : Number) : Int :=
  if x.isNaN then 0
  else
    let whole : Nat := if x.isFinite then x.units / unitsPerOne else Width.size 63
    if x.negative then max (-(whole : Int)) (-(Width.size 63 : Int))
    else min (whole : Int) (Width.size 63 - 1)

/-! ### Comparison -/

/-- The place of a number in the order of values. Both zeros have the place zero. -/
def place (x : Number) : Int := if x.negative then -(x.magnitude : Int) else x.magnitude

/-- The order of two values; none if one is not a number. -/
def compare? (x y : Number) : Option Ordering :=
  if x.isNaN || y.isNaN then none else some (compare x.place y.place)

/-- Equality of values: both zeros are equal, and not-a-number equals nothing. -/
def sameValue (x y : Number) : Bool :=
  !x.isNaN && !y.isNaN && x.place == y.place

/-- The bit pattern, in 64 bits. -/
def pattern (x : Number) : BitVec 64 :=
  BitVec.ofNat 64 (x.magnitude + if x.negative then Width.size 63 else 0)

/-- The bit pattern changed so that patterns are ordered as numbers are: below zero all bits are
turned, and else the sign bit. The patterns of the two zeros are neighbours in this order. -/
def orderedPattern (x : Number) : BitVec 64 :=
  if x.negative then ~~~x.pattern else x.pattern + BitVec.intMin 64

/-- Whether two values are equal, or at most `steps` apart in the order of bit patterns. The
difference of patterns wraps around as that of words does. From a number below zero to one above
it, the step between the zeros counts too: the least numbers of both signs are three steps apart,
and the next ones five. An infinity is one step beyond the largest number, and two equal patterns of
not-a-number are close in this sense. -/
def withinSteps (steps : Nat) (x y : Number) : Bool :=
  x.sameValue y || decide ((x.orderedPattern - y.orderedPattern).toInt.natAbs ≤ steps)

/-- Swapping the operands swaps the order. -/
theorem compare?_swap (x y : Number) : compare? y x = (compare? x y).map Ordering.swap := by
  unfold compare?
  by_cases h : (x.isNaN || y.isNaN) = true
  · rw [if_pos h, if_pos (by rwa [Bool.or_comm]), Option.map_none]
  · rw [if_neg h, if_neg (by rwa [Bool.or_comm]), Option.map_some]
    exact congrArg some Std.OrientedCmp.eq_swap

theorem sameValue_comm (x y : Number) : sameValue x y = sameValue y x := by
  simp only [sameValue, Bool.beq_comm (a := x.place)]
  cases x.isNaN <;> cases y.isNaN <;> simp

/-- Words are as far apart from either side, also where their difference wraps around. -/
theorem natAbs_toInt_sub_comm (a b : BitVec 64) :
    (a - b).toInt.natAbs = (b - a).toInt.natAbs := by
  rw [BitVec.toInt_sub, BitVec.toInt_sub]
  simp only [Int.bmod, Nat.reducePow]
  omega

/-- Closeness is symmetric. -/
theorem withinSteps_comm (steps : Nat) (x y : Number) :
    withinSteps steps x y = withinSteps steps y x := by
  rw [withinSteps, withinSteps, sameValue_comm, natAbs_toInt_sub_comm]

end Number

end Stencil
