/-!
# Widths of integers

Integers that a word of some count of bits can hold.

## Main definitions

* `Width.size`: how many values a word has
* `Width.unsigned`, `Width.signed`: whether an integer is one of them
-/

namespace Stencil.Width

/-- The count of values that `bits` bits tell apart. -/
def size (bits : Nat) : Nat := Nat.pow 2 bits

/-- Whether an integer is one of a word without a sign. -/
def unsigned (bits : Nat) (n : Int) : Bool := decide (0 ≤ n ∧ n < size bits)

/-- Whether an integer is one of a word in two's complement. -/
def signed (bits : Nat) (n : Int) : Bool :=
  decide (-(size (bits - 1) : Int) ≤ n ∧ n < size (bits - 1))

end Stencil.Width
