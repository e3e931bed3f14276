import Stencil.Text.Case

/-!
# Sets of characters

The sets of characters that patterns are made of: ranges, Unicode classes, and what set
operations make of them.

## Main definitions

* `CharSet`: set expressions
* `CharSet.contains`: membership
-/

namespace Stencil

/-- A set of characters. -/
inductive CharSet where
  /-- No character. -/
  | empty
  /-- The code points from the first to the last. -/
  | range (first last : Nat)
  /-- The code points of a table of ranges. -/
  | table (ranges : Array (Nat × Nat))
  /-- Decimal digits. -/
  | digit
  /-- Blank characters. -/
  | blank
  /-- Characters of words. -/
  | word
  /-- The characters that are not in a set. -/
  | complement (set : CharSet)
  /-- The characters in one of two sets. -/
  | union (left right : CharSet)
  /-- The characters in both of two sets. -/
  | inter (left right : CharSet)
  /-- The characters of a set that are not in another. -/
  | diff (left right : CharSet)
  /-- The characters in exactly one of two sets. -/
  | symmDiff (left right : CharSet)
  /-- The characters that equal one of a set when case is ignored. -/
  | anyCase (set : CharSet)
  deriving Inhabited

namespace CharSet

/-- Membership of a code point. -/
def containsCode : CharSet → Nat → Bool
  | .empty, _ => false
  | .range first last, n => first ≤ n && n ≤ last
  | .table ranges, n => Text.inRanges ranges n
  | .digit, n => Text.isDecimalDigit (Char.ofNat n)
  | .blank, n => Text.isBlank (Char.ofNat n)
  | .word, n => Text.isWordCharacter (Char.ofNat n)
  | .complement set, n => !containsCode set n
  | .union left right, n => containsCode left n || containsCode right n
  | .inter left right, n => containsCode left n && containsCode right n
  | .diff left right, n => containsCode left n && !containsCode right n
  | .symmDiff left right, n => containsCode left n != containsCode right n
  | .anyCase set, n => (Text.caseVariants (Char.ofNat n)).any (containsCode set)

/-- Membership of a character. -/
def contains (set : CharSet) (c : Char) : Bool := containsCode set c.toNat

/-- The set of one character. -/
def single (c : Char) : CharSet := .range c.toNat c.toNat

/-- The union of ranges between characters. -/
def ofRanges (ranges : List (Char × Char)) : CharSet :=
  ranges.foldl (fun set (first, last) => .union set (.range first.toNat last.toNat)) .empty

end CharSet

end Stencil
