import Stencil.Pattern.CharSet

/-!
# Patterns

Regular expressions without look-around and back-references: characters, assertions about
a place in a text, sequences, alternatives, repetitions and captured groups.

## Main definitions

* `Assertion`, `Assertion.holds`: conditions on the characters around a place
* `Pattern`: regular expressions
* `Pattern.size`: how many instructions a pattern takes
-/

namespace Stencil

/-- A condition on a place in a text. -/
inductive Assertion where
  /-- The start of the text. -/
  | textStart
  /-- The end of the text. -/
  | textEnd
  /-- The start of a line; with `crlf`, carriage returns end lines too. -/
  | lineStart (crlf : Bool)
  /-- The end of a line; with `crlf`, carriage returns end lines too. -/
  | lineEnd (crlf : Bool)
  /-- The start or the end of a word. -/
  | wordEdge (letters : CharSet)
  /-- Neither the start nor the end of a word. -/
  | noWordEdge (letters : CharSet)
  /-- The start of a word. -/
  | wordStart (letters : CharSet)
  /-- The end of a word. -/
  | wordEnd (letters : CharSet)
  /-- No word character stands before. -/
  | wordStartHalf (letters : CharSet)
  /-- No word character follows. -/
  | wordEndHalf (letters : CharSet)

/-- Whether an assertion holds between two characters; at an end of the text there is no
character. -/
def Assertion.holds (before after : Option Char) : Assertion → Bool
  | .textStart => before.isNone
  | .textEnd => after.isNone
  | .lineStart crlf =>
    match before with
    | none => true
    | some c => c == '\n' || (crlf && c == '\r' && after != some '\n')
  | .lineEnd crlf =>
    match after with
    | none => true
    | some c =>
      if crlf then c == '\r' || (c == '\n' && before != some '\r') else c == '\n'
  | .wordEdge letters => before.any letters.contains != after.any letters.contains
  | .noWordEdge letters => before.any letters.contains == after.any letters.contains
  | .wordStart letters => !before.any letters.contains && after.any letters.contains
  | .wordEnd letters => before.any letters.contains && !after.any letters.contains
  | .wordStartHalf letters => !before.any letters.contains
  | .wordEndHalf letters => !after.any letters.contains

/-- A regular expression. -/
inductive Pattern where
  /-- The empty text. -/
  | empty
  /-- One character of a set. -/
  | one (set : CharSet)
  /-- The empty text, where a condition holds. -/
  | check (assertion : Assertion)
  /-- One pattern after another. -/
  | seq (first second : Pattern)
  /-- The first pattern, or else the second. -/
  | either (first second : Pattern)
  /-- A pattern several times in a row, as often as possible or, if not `greedy`, as seldom
  as possible. -/
  | repeated (least : Nat) (most : Option Nat) (greedy : Bool) (body : Pattern)
  /-- A pattern whose extent is remembered under an index. -/
  | capture (index : Nat) (body : Pattern)
  deriving Inhabited

namespace Pattern

/-- How many instructions a pattern takes at most. -/
def size : Pattern → Nat
  | .empty => 0
  | .one _ => 1
  | .check _ => 1
  | .seq first second => first.size + second.size
  | .either first second => first.size + second.size + 1
  | .repeated least most _ body => (max least (most.getD (least + 1)) + 1) * (body.size + 2)
  | .capture _ body => body.size + 2

/-- One pattern after another, for a whole list. -/
def ofList (patterns : List Pattern) : Pattern :=
  patterns.foldr .seq .empty

end Pattern

end Stencil
