import Stencil.Value.Basic

/-!
# Values as texts and as numbers

The text that a value contributes to a document, and the number that it stands for in
arithmetic.

## Main definitions

* `Number.display`: a number without binary rounding noise
* `Number.grouped`: a number with fixed places and separated thousands
* `Value.display`: the text of a value
* `Number.literal?`: the number that a text spells, unless it has a leading zero
* `Value.asNumber?`: the number that a value stands for
-/

namespace Stencil

namespace Number

/-! ### Written forms for documents -/

/-- From here on numbers are written with all their digits. -/
def displayLimit : Number := ofDecimal false ⟨1, -15⟩

/-- A number closer than this to a whole one is written as that whole number. -/
def wholeTolerance : Number := ofDecimal false ⟨1, 9⟩

/-- The factor that keeps ten places. -/
def displayFactor : Number := ofDecimal false ⟨1, -10⟩

/-- The text of an integer. -/
def integerText (n : Int) : Text :=
  if n < 0 then '-' :: Text.ofNat n.natAbs else Text.ofNat n.natAbs

/-- A number without binary rounding noise: ten places at most, and none for a number
that is whole up to `wholeTolerance`. -/
def display (x : Number) : Text :=
  if !x.isFinite then x.text
  else if displayLimit.place ≤ x.abs.place then x.text
  else if (x.sub x.round).abs.place < wholeTolerance.place then integerText x.round.toInt64
  else ((x.mul displayFactor).round.div displayFactor).text

/-- The most places that `grouped` writes. -/
def maxPlaces : Nat := 20

/-- The number rounded to a count of places, half away from zero. A number too large to be
scaled stays as it is. -/
def roundTo (places : Nat) (x : Number) : Number :=
  let factor := ofDecimal false ⟨1, -(places : Int)⟩
  let scaled := x.mul factor
  if scaled.isFinite then scaled.round.div factor else x

/-- A separator between every three digits, counted from the end. -/
def groupThousands (separator : Text) : Text → Text
  | [] => []
  | [digit] => [digit]
  | digit :: rest =>
    if rest.length % 3 = 0 then digit :: separator ++ groupThousands separator rest
    else digit :: groupThousands separator rest

/-- A number with fixed places, a decimal point and separated thousands. -/
def grouped (x : Number) (places : Nat) (point separator : Text) : Text :=
  let places := min places maxPlaces
  let rounded := x.roundTo places
  let digits := rounded.fixedText places
  let whole := digits.takeWhile (· != '.')
  let fraction := (digits.dropWhile (· != '.')).tail
  (if !rounded.isNaN && rounded.place < 0 then ['-'] else []) ++
    groupThousands separator whole ++
    (if fraction = [] then [] else point ++ fraction)

/-! ### Number literals -/

/-- The number that a text spells: an optional minus sign, then a digit, then decimal
notation. A text with a leading zero such as `0123` spells no number, so that the digits of
codes are kept. -/
def literal? (text : Text) : Option Number :=
  let digits := match text with | '-' :: rest => rest | _ => text
  match digits with
  | first :: rest =>
    if !first.isDigit then none
    else if first == '0' && (rest.head?.any Char.isDigit) then none
    else (ofText? text).filter isFinite
  | [] => none

end Number

namespace Value

mutual

/-- The text of a value. Null, false and objects have none, and true is `1`. -/
def display : Value → Text
  | .null => []
  | .bool value => if value then ['1'] else []
  | .number n => n.display
  | .text value => value
  | .list items => displayItems items
  | .object _ _ => []

/-- The texts of the elements of a list, with a comma and a space between them. -/
def displayItems : List Value → Text
  | [] => []
  | [item] => display item
  | item :: rest => display item ++ ", ".toList ++ displayItems rest

end

/-- The number that a value stands for. -/
def asNumber? : Value → Option Number
  | .number n => some n
  | .bool value => some (Number.ofNat value.toNat)
  | .null => some Number.zero
  | .text value => Number.literal? value
  | .list _ | .object _ _ => none

end Value

end Stencil
