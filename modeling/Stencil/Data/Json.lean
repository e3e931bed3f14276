import Stencil.Text.Quoted
import Stencil.Value.Basic

/-!
# JSON

Reads JSON texts as values. Objects keep the order of their names; a repeated name keeps its
first place and takes its last value.

## Main definitions

* `Json.number?`: a number; its digits beyond 64 bits do not count
* `Json.string?`: a text in double quotes
* `Json.value?`: a value of any kind, up to a depth of nesting
* `Json.parse?`: a whole text
-/

namespace Stencil.Json

/-- The blanks between tokens. -/
def isBlank (c : Char) : Bool :=
  c == ' ' || c == '\n' || c == '\t' || c == '\r'

/-- A text without blanks at its start. -/
def skipBlanks (text : Text) : Text :=
  text.dropWhile isBlank

/-! ### Numbers -/

/-- The digits of a number as far as they fit in 64 bits, and how many follow them. -/
def significant (digits : Text) (value : Nat) : Nat × Nat :=
  match digits with
  | [] => (value, 0)
  | digit :: rest =>
    let next := value * 10 + (digit.toNat - '0'.toNat)
    if Width.unsigned 64 next then significant rest next else (value, digits.length)

/-- `whole` times ten to the power of `exponent`, in one or two roundings: the whole number
is rounded first, and then its product with, or its quotient by, a power of ten. None if the
result is too large. -/
def scaled? (negative : Bool) (whole : Nat) (exponent : Int) : Option Number :=
  let power (n : Nat) : Number := Number.ofDecimal false ⟨1, -(n : Int)⟩
  let start := Number.ofNat whole
  let result? : Option Number :=
    if 0 ≤ exponent then
      if start.isZero then some start
      else if 308 < exponent then none
      else some (start.mul (power exponent.toNat))
    else if exponent.natAbs ≤ 308 then some (start.div (power exponent.natAbs))
    else if exponent.natAbs ≤ 616 then
      some ((start.div (power 308)).div (power (exponent.natAbs - 308)))
    else some Number.zero
  (result?.filter Number.isFinite).map fun n => if negative then n.neg else n

/-- Takes the sign and the digits of an exponent. -/
def exponent? (text : Text) : Option (Int × Text) :=
  let (negative, text) :=
    match text with
    | '-' :: rest => (true, rest)
    | '+' :: rest => (false, rest)
    | _ => (false, text)
  let digits := text.takeWhile Char.isDigit
  if digits = [] then none
  else
    let value : Int := Text.digitsValue digits
    some (if negative then -value else value, text.dropWhile Char.isDigit)

/-- Takes a number. The whole part has no leading zero, and there are digits behind a point. -/
def number? (text : Text) : Option (Number × Text) := do
  let (negative, text) :=
    match text with
    | '-' :: rest => (true, rest)
    | _ => (false, text)
  let whole := text.takeWhile Char.isDigit
  let text := text.dropWhile Char.isDigit
  if whole = [] ∨ (whole.head? = some '0' ∧ 1 < whole.length) then none
  else
    let (fraction, text) ←
      match text with
      | '.' :: rest =>
        let digits := rest.takeWhile Char.isDigit
        if digits = [] then none else some (digits, rest.dropWhile Char.isDigit)
      | _ => some ([], text)
    let (exponent, text) ←
      match text with
      | 'e' :: rest | 'E' :: rest => exponent? rest
      | _ => some (0, text)
    let (value, dropped) := significant (whole ++ fraction) 0
    -- a digit that is dropped counts as a factor of ten
    let places : Int := (dropped : Int) - fraction.length
    return (← scaled? negative value (exponent + places), text)

/-! ### Texts -/

/-- What a character stands for after a backslash. -/
def escapedChar? (c : Char) : Option Char :=
  [('"', '"'), ('\\', '\\'), ('/', '/'), ('b', '\x08'), ('f', '\x0c'), ('n', '\n'), ('r', '\r'),
    ('t', '\t')].lookup c

/-- The character of a pair of surrogates. -/
def surrogatePair? (high low : Nat) : Option Char :=
  if 0xD800 ≤ high ∧ high < 0xDC00 ∧ 0xDC00 ≤ low ∧ low < 0xE000 then
    Text.charOfCode? (0x10000 + (high - 0xD800) * 0x400 + (low - 0xDC00))
  else none

/-- Takes a text behind its opening quote, up to its closing one. -/
def string? : Text → Option (Text × Text)
  | [] => none
  | '"' :: rest => some ([], rest)
  | '\\' :: 'u' :: a :: b :: c :: d :: '\\' :: 'u' :: e :: f :: g :: h :: rest => do
    let first ← Text.hexValue? [a, b, c, d]
    match surrogatePair? first ((Text.hexValue? [e, f, g, h]).getD 0) with
    | some char => (string? rest).map fun (content, rest) => (char :: content, rest)
    | none =>
      -- the second escape is a character of its own then
      let char ← Text.charOfCode? first
      (string? ('\\' :: 'u' :: e :: f :: g :: h :: rest)).map fun (content, rest) =>
        (char :: content, rest)
  | '\\' :: 'u' :: a :: b :: c :: d :: rest => do
    let char ← (Text.hexValue? [a, b, c, d]).bind Text.charOfCode?
    (string? rest).map fun (content, rest) => (char :: content, rest)
  | '\\' :: c :: rest => do
    let char ← escapedChar? c
    (string? rest).map fun (content, rest) => (char :: content, rest)
  | c :: rest =>
    if c.toNat < 0x20 ∨ c = '\\' then none
    else (string? rest).map fun (content, rest) => (c :: content, rest)
termination_by text => text.length

/-! ### Values -/

/-- How deep arrays and objects may nest. -/
def maxDepth : Nat := 127

/-- Takes a given word. -/
def word? (word : Text) (value : Value) (text : Text) : Option (Value × Text) :=
  (word.isPrefixOf? text).map fun rest => (value, rest)

mutual

/-- Takes a value. Every step takes a character, so the length of the text is `fuel` enough. -/
def value? (fuel depth : Nat) (text : Text) : Option (Value × Text) :=
  match fuel with
  | 0 => none
  | fuel + 1 =>
    match skipBlanks text with
    | [] => none
    | '"' :: rest => (string? rest).map fun (content, rest) => (.text content, rest)
    | '[' :: rest =>
      match depth with
      | 0 => none
      | depth + 1 =>
        match skipBlanks rest with
        | ']' :: rest => some (.list [], rest)
        | rest => (items? fuel depth rest).map fun (items, rest) => (.list items, rest)
    | '{' :: rest =>
      match depth with
      | 0 => none
      | depth + 1 =>
        match skipBlanks rest with
        | '}' :: rest => some (.object none [], rest)
        | rest =>
          (members? fuel depth rest).map fun (members, rest) =>
            (.object none (Bindings.ofPairs members), rest)
    | c :: rest =>
      if c == 'n' then word? "null" .null (c :: rest)
      else if c == 't' then word? "true" (.bool true) (c :: rest)
      else if c == 'f' then word? "false" (.bool false) (c :: rest)
      else (number? (c :: rest)).map fun (n, rest) => (.number n, rest)

/-- Takes the elements of an array up to its end. -/
def items? (fuel depth : Nat) (text : Text) : Option (List Value × Text) :=
  match fuel with
  | 0 => none
  | fuel + 1 => do
    let (item, rest) ← value? fuel depth text
    match skipBlanks rest with
    | ',' :: rest => (items? fuel depth rest).map fun (items, rest) => (item :: items, rest)
    | ']' :: rest => some ([item], rest)
    | _ => none

/-- Takes the members of an object up to its end. -/
def members? (fuel depth : Nat) (text : Text) : Option (List (Text × Value) × Text) :=
  match fuel with
  | 0 => none
  | fuel + 1 =>
    match skipBlanks text with
    | '"' :: rest => do
      let (name, rest) ← string? rest
      match skipBlanks rest with
      | ':' :: rest => do
        let (value, rest) ← value? fuel depth rest
        match skipBlanks rest with
        | ',' :: rest =>
          (members? fuel depth rest).map fun (members, rest) => ((name, value) :: members, rest)
        | '}' :: rest => some ([(name, value)], rest)
        | _ => none
      | _ => none
    | _ => none

end

/-- Reads a whole text as one value. -/
def parse? (text : Text) : Option Value :=
  (value? (2 * text.length + 2) maxDepth text).bind fun (value, rest) =>
    if skipBlanks rest = [] then some value else none

end Stencil.Json
