import Stencil.Text.Basic

/-!
# Quoted texts

Single or double quotes protect what stands between them: separators inside quotes do not
separate, and one pair of quotes around a text can be taken off. Inside an expression a
quoted text may itself hold quoted stretches, and backslash escapes work in the double
quoted ones.

## Main definitions

* `Text.unquote`: the text without one pair of quotes around it
* `Text.Nesting`: what is open at a place in a text
* `Text.splitOutside`: the parts between separators that stand outside of quotes and,
  where that matters, of parentheses
* `Text.unescape?`: the meaning of a text with quoted stretches and escapes
-/

namespace Stencil.Text

/-- The characters that open and close a quoted stretch. -/
def isQuote (c : Char) : Bool := c == '"' || c == '\''

/-- Whether the text starts with a quote and ends with another one of the same kind. -/
def isQuoted : Text → Bool
  | q :: rest => isQuote q && rest.getLast? == some q
  | [] => false

/-- The text without one pair of equal quotes around it, if there is one. -/
def unquote (text : Text) : Text :=
  if isQuoted text then text.tail.dropLast else text

/-- The text between two double quotes. -/
def quote (text : Text) : Text :=
  '"' :: text ++ ['"']

@[simp]
theorem unquote_quote (text : Text) : unquote (quote text) = text := by
  simp [unquote, quote, isQuoted, isQuote]

/-! ### Separators outside of quotes -/

/-- What is open at a place in a text: at most one quote, and a number of parentheses. -/
structure Nesting where
  /-- The quote that is open. -/
  quote : Option Char := none
  /-- How many parentheses are open. -/
  depth : Nat := 0
  deriving DecidableEq, Repr

namespace Nesting

/-- Nothing is open. -/
def isOutside (nesting : Nesting) : Bool :=
  nesting.quote == none && nesting.depth == 0

/-- Reads one character. Inside a quoted stretch only the same quote counts, and
parentheses count only where `parens` says so. -/
def step (parens : Bool) (nesting : Nesting) (c : Char) : Nesting :=
  match nesting.quote with
  | some q => if c = q then { nesting with quote := none } else nesting
  | none =>
    if isQuote c then { nesting with quote := some c }
    else if parens && c == '(' then { nesting with depth := nesting.depth + 1 }
    else if parens && c == ')' then { nesting with depth := nesting.depth - 1 }
    else nesting

/-- Reads a text. -/
def run (parens : Bool) (nesting : Nesting) (text : Text) : Nesting :=
  text.foldl (step parens) nesting

end Nesting

/-- The parts of a text between those separators that stand where nothing is open. -/
def splitOutsideFrom (separator : Char) (parens : Bool) : Nesting → Text → List Text
  | _, [] => [[]]
  | nesting, c :: rest =>
    if nesting.isOutside && c == separator && nesting.step parens c == nesting then
      [] :: splitOutsideFrom separator parens nesting rest
    else
      match splitOutsideFrom separator parens (nesting.step parens c) rest with
      | [] => [[c]]
      | part :: parts => (c :: part) :: parts

/-- The parts of a text between separators that stand outside of quotes and, with `parens`,
outside of parentheses. -/
def splitOutside (separator : Char) (parens : Bool) (text : Text) : List Text :=
  splitOutsideFrom separator parens {} text

theorem splitOutsideFrom_ne_nil (separator : Char) (parens : Bool) (nesting : Nesting)
    (text : Text) : splitOutsideFrom separator parens nesting text ≠ [] := by
  cases text with
  | nil => simp [splitOutsideFrom]
  | cons c rest =>
    rw [splitOutsideFrom]
    split
    · simp
    · split <;> simp

/-! ### Escapes -/

/-- The value of a hexadecimal digit. -/
def hexDigit? (c : Char) : Option Nat :=
  if c.isDigit then some (c.toNat - '0'.toNat)
  else if 'a' ≤ c ∧ c ≤ 'f' then some (c.toNat - 'a'.toNat + 10)
  else if 'A' ≤ c ∧ c ≤ 'F' then some (c.toNat - 'A'.toNat + 10)
  else none

/-- The value of a non-empty run of hexadecimal digits. -/
def hexValue? (digits : Text) : Option Nat :=
  if digits = [] then none
  else digits.foldl (fun value? c => do return (← value?) * 16 + (← hexDigit? c)) (some 0)

/-- The character with a given code point, if there is one. -/
def charOfCode? (n : Nat) : Option Char :=
  if n.isValidChar then some (Char.ofNat n) else none

/-- What a character stands for after a backslash. -/
def escapedChar? (c : Char) : Option Char :=
  [('a', '\x07'), ('b', '\x08'), ('v', '\x0b'), ('f', '\x0c'), ('n', '\n'), ('r', '\r'),
    ('t', '\t'), ('e', '\x1b'), ('E', '\x1b'), ('\\', '\\'), ('\'', '\''), ('"', '"'),
    ('$', '$'), ('\x60', '\x60'), (' ', ' ')].lookup c

/-- What is being read: plain text, a stretch in single or in double quotes, the character
after a backslash, or the digits of a code point. -/
inductive EscapeState where
  | plain
  | single
  | double
  | escape
  | code (digits : Text)

/-- The meaning of a text. Outside of quotes a backslash is itself. A stretch in single
quotes loses its quotes and is kept as it is; one in double quotes loses its quotes and has
its escapes replaced. A stretch, and the braces of a code point, may stay open at the end. -/
def unescapeFrom? : EscapeState → Text → Option Text
  | .plain, [] | .single, [] | .double, [] => some []
  | .escape, [] => none
  | .code digits, [] => do return [← codeChar? digits]
  | .plain, c :: rest =>
    if c = '\'' then unescapeFrom? .single rest
    else if c = '"' then unescapeFrom? .double rest
    else (unescapeFrom? .plain rest).map (c :: ·)
  | .single, c :: rest =>
    if c = '\'' then unescapeFrom? .plain rest else (unescapeFrom? .single rest).map (c :: ·)
  | .double, c :: rest =>
    if c = '"' then unescapeFrom? .plain rest
    else if c = '\\' then unescapeFrom? .escape rest
    else (unescapeFrom? .double rest).map (c :: ·)
  | .escape, 'u' :: '{' :: rest => unescapeFrom? (.code []) rest
  | .escape, c :: rest => do return (← escapedChar? c) :: (← unescapeFrom? .double rest)
  | .code digits, '}' :: rest => do
    return (← codeChar? digits) :: (← unescapeFrom? .double rest)
  | .code digits, c :: rest => unescapeFrom? (.code (digits ++ [c])) rest
where
  /-- The character with a code point in hexadecimal digits, with an optional plus sign. -/
  codeChar? (digits : Text) : Option Char := do
    let digits := match digits with | '+' :: rest => rest | _ => digits
    charOfCode? (← hexValue? digits)

/-- The meaning of a text with quoted stretches and escapes; none if an escape is wrong. -/
def unescape? (text : Text) : Option Text :=
  unescapeFrom? .plain text

end Stencil.Text
