import Stencil.Text.Basic

/-!
# Substitution

The placeholders of a template are replaced in one pass over its text. Replacements are
not looked at again; where two placeholders start at the same place the longer one is
replaced, and of two replacements for one text the first counts. The pass always succeeds:
it is assumed that a matcher of all texts to be replaced can be built, however many they are.

## Main definitions

* `Replacements`: texts with what replaces them
* `Replacements.longest?`: the longest text to be replaced at a place
* `Replacements.substitute`: the pass over a text
-/

namespace Stencil

/-- Texts with what replaces them. -/
abbrev Replacements := List (Text × Text)

namespace Replacements

/-- The longest text to be replaced at the start of `rest`, as its length together with its
replacement. -/
def longest? (rest : Text) : Replacements → Option (Nat × Text)
  | [] => none
  | (raw, replacement) :: others =>
    match longest? rest others with
    | some (length, other) =>
      if raw.isPrefixOf rest && length ≤ raw.length then some (raw.length, replacement)
      else some (length, other)
    | none => if raw.isPrefixOf rest then some (raw.length, replacement) else none

/-- The text with everything replaced that is to be replaced. A matcher that finds all these texts
at once is assumed to fit in its memory limit, so there is no failure. -/
def substitute (replacements : Replacements) (text : Text) : Text :=
  Text.replacing (fun rest => replacements.longest? rest) text

end Replacements

end Stencil
