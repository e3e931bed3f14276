import Stencil.Text.Basic
import Stencil.Text.Table.Alphabetic
import Stencil.Text.Table.Numeric
import Stencil.Text.Table.Mark

/-!
# Letters, digits and words

Classes of characters by their Unicode properties. The characters below 128 are decided
directly; the rest are looked up in the range tables.

## Main definitions

* `Text.isAlphabetic`, `Text.isAlphanumeric`: letters, and letters with digits
* `Text.isDecimalDigit`, `Text.isWordCharacter`: the classes of digits and of words in
  patterns
-/

namespace Stencil.Text

/-- Whether a number lies in one of the ranges. -/
def inRanges (ranges : Array (Nat × Nat)) (n : Nat) : Bool :=
  ranges.any fun (first, last) => first ≤ n && n ≤ last

/-- The Unicode property `Alphabetic`. -/
def isAlphabetic (c : Char) : Bool :=
  if c.toNat < 128 then c.isAlpha else inRanges Table.alphabetic c.toNat

/-- Letters in the sense of `isAlphabetic`, and characters of a number category. -/
def isAlphanumeric (c : Char) : Bool :=
  if c.toNat < 128 then c.isAlphanum
  else inRanges Table.alphabetic c.toNat || inRanges Table.numeric c.toNat

/-- The Unicode category of decimal digits. -/
def isDecimalDigit (c : Char) : Bool :=
  if c.toNat < 128 then c.isDigit else inRanges Table.decimalDigit c.toNat

/-- Characters of words: letters, marks, decimal digits, connecting punctuation and the two
join controls. -/
def isWordCharacter (c : Char) : Bool :=
  if c.toNat < 128 then c.isAlphanum || c == '_'
  else
    let n := c.toNat
    inRanges Table.alphabetic n || inRanges Table.mark n || inRanges Table.decimalDigit n ||
      (0x200C ≤ n && n ≤ 0x200D) || (0x203F ≤ n && n ≤ 0x2040) || n == 0x2054 ||
      (0xFE33 ≤ n && n ≤ 0xFE34) || (0xFE4D ≤ n && n ≤ 0xFE4F) || n == 0xFF3F

theorem isAlphanumeric_of_isAlphabetic {c : Char} (h : isAlphabetic c = true) :
    isAlphanumeric c = true := by
  unfold isAlphabetic at h
  unfold isAlphanumeric
  split at h
  · next small => simp [small, Char.isAlphanum, h]
  · next large => simp [large, h]

end Stencil.Text
