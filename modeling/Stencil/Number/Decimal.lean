import Stencil.Text.Basic
import Stencil.Number.Basic

/-!
# Decimal notation of numbers

Reading rounds the exact decimal value once. Writing has two forms: the shortest decimal
that reads back as the same number, always in positional notation, and a form with a fixed
number of places.

## Main definitions

* `Decimal`: an integer counted in a power of ten
* `Number.ofDecimal`: the number nearest to a decimal
* `Number.ofText?`: reads decimal notation with an optional exponent
* `Number.shortest`: the decimal with the fewest places that reads back as the number
* `Number.text`, `Number.fixedText`: the two written forms
-/

namespace Stencil

/-- The value `digits * 10 ^ (-places)`. -/
structure Decimal where
  /-- The digits as a natural number. -/
  digits : Nat
  /-- How many of the digits stand behind the point; negative for trailing zeros. -/
  places : Int
  deriving DecidableEq, Repr

namespace Decimal

/-- Positional notation, without an exponent. -/
def text (d : Decimal) : Text :=
  if d.places ≤ 0 then Text.ofNat (d.digits * Nat.pow 10 (-d.places).toNat)
  else
    let places := d.places.toNat
    let digits := Text.padLeft (places + 1) '0' (Text.ofNat d.digits)
    let whole := digits.length - places
    digits.take whole ++ '.' :: digits.drop whole

/-- Reads digits with an optional point and an optional exponent. -/
def ofText? (text : Text) : Option Decimal :=
  let whole := text.takeWhile Char.isDigit
  let afterWhole := text.dropWhile Char.isDigit
  let (fraction, afterFraction) : Text × Text :=
    match afterWhole with
    | '.' :: rest => (rest.takeWhile Char.isDigit, rest.dropWhile Char.isDigit)
    | _ => ([], afterWhole)
  let digits := whole ++ fraction
  let exponent? : Option Int :=
    match afterFraction with
    | [] => some 0
    | e :: rest =>
      if e = 'e' ∨ e = 'E' then
        match rest with
        | '-' :: rest => (Text.digits? rest).map fun n => -(n : Int)
        | '+' :: rest => (Text.digits? rest).map fun n => (n : Int)
        | _ => (Text.digits? rest).map fun n => (n : Int)
      else none
  if digits = [] then none
  else exponent?.map fun exponent => ⟨Text.digitsValue digits, fraction.length - exponent⟩

end Decimal

namespace Number

/-! ### Reading -/

/-- The number nearest to a decimal. Decimals far beyond the range are settled by their
size alone. -/
def ofDecimal (negative : Bool) (d : Decimal) : Number :=
  if d.digits = 0 then ⟨negative, 0⟩
  else if d.places < -400 then infinity negative
  else if d.digits.log2 + 400 < d.places then ⟨negative, 0⟩
  else
    ofUnits negative (d.digits * Nat.pow 10 (-d.places).toNat * unitsPerOne)
      (Nat.pow 10 d.places.toNat)

/-- Reads an optional sign and a decimal, `inf`, `infinity` or `nan` in any letter case. -/
def ofText? (text : Text) : Option Number :=
  let (negative, body) : Bool × Text :=
    match text with
    | '-' :: rest => (true, rest)
    | '+' :: rest => (false, rest)
    | _ => (false, text)
  let word := Text.lower body
  if word = ("inf" : Text) ∨ word = ("infinity" : Text) then some (infinity negative)
  else if word = ("nan" : Text) then some (nan negative)
  else (Decimal.ofText? body).map (ofDecimal negative)

/-! ### The shortest decimal -/

/-- The point of the decimal grid with a given number of places that reads back as the
number, if there is one; of two, the nearer. The reals that round to the number form an
interval around it, whose ends belong to it when the significand is even; below a power of
two the interval reaches only half as far. -/
def onGrid? (x : Number) (places : Int) : Option Nat :=
  let up := Nat.pow 10 places.toNat
  let grid := 4 * unitsPerOne * Nat.pow 10 (-places).toNat
  let value := 4 * x.units * up
  let step := Nat.pow 2 x.scale
  let halfAbove := 2 * step * up
  let halfBelow := (if x.significand = Nat.pow 2 52 ∧ 0 < x.scale then step else 2 * step) * up
  let slack := if x.significand % 2 = 0 then 0 else 1
  let below := value / grid
  let above := below + 1
  let belowFits : Bool := value + slack ≤ below * grid + halfBelow
  let aboveFits : Bool := above * grid + slack ≤ value + halfAbove
  if belowFits && aboveFits then
    some (if 2 * (value - below * grid) < grid then below else above)
  else if belowFits then some below
  else if aboveFits then some above
  else none

/-- Tries ever finer decimal grids; `fuel` bounds their number. -/
def shortestFrom (x : Number) : (fuel : Nat) → (places : Int) → Decimal
  | 0, places => ⟨0, places⟩
  | fuel + 1, places =>
    match onGrid? x places with
    | some digits => ⟨digits, places⟩
    | none => shortestFrom x fuel (places + 1)

/-- The decimal with the fewest places that reads back as a positive finite number. The
coarsest grid that can hold it is that of its own power of ten, and a grid of 324 places
holds every number. -/
def shortest (x : Number) : Decimal :=
  let start : Int := -(Text.ofNat (x.units / unitsPerOne)).length
  shortestFrom x 700 start

/-- The sign in front of a negative number. -/
def signText (x : Number) : Text := if x.negative then ['-'] else []

/-- The shortest decimal notation that reads back as the same number. -/
def text (x : Number) : Text :=
  if x.isNaN then "NaN"
  else if !x.isFinite then x.signText ++ "inf"
  else if x.isZero then x.signText ++ ['0']
  else x.signText ++ x.shortest.text

/-! ### Fixed places -/

/-- The absolute value with a fixed number of places, rounded exactly, ties to even. -/
def fixedText (places : Nat) (x : Number) : Text :=
  if x.isFinite then
    Decimal.text ⟨nearestEven (x.units * Nat.pow 10 places) unitsPerOne, places⟩
  else x.abs.text

end Number

end Stencil
