import Stencil.Text.Basic

/-!
# Blank characters

The characters with the Unicode property `White_Space`, and the operations on texts that
depend on them.

## Main definitions

* `Text.isBlank`: the property `White_Space`
* `Text.trim`: a text without blanks at its ends
* `Text.words`: the maximal runs of characters that are not blank
-/

namespace Stencil.Text

/-- The Unicode property `White_Space`. -/
def isBlank (c : Char) : Bool :=
  let n := c.toNat
  (0x9 ≤ n && n ≤ 0xD) || n == 0x20 || n == 0x85 || n == 0xA0 || n == 0x1680 ||
    (0x2000 ≤ n && n ≤ 0x200A) || n == 0x2028 || n == 0x2029 || n == 0x202F || n == 0x205F ||
    n == 0x3000

/-- The text without blanks at its two ends. -/
def trim (text : Text) : Text :=
  trimBy isBlank text

/-- The maximal runs of characters that are not blank. -/
def words (text : Text) : List Text :=
  (split isBlank text).filter (· ≠ [])

end Stencil.Text
