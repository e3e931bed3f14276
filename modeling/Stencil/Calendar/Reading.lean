import Stencil.Calendar.Layout

/-!
# Reading moments

A text is read as a moment in one of several accepted layouts. Numbers may have fewer
digits than the layout writes, and blanks may stand in front of them.

## Main definitions

* `MomentParts`: what has been read so far
* `LayoutItem.readAll?`: reads a whole text in a layout
* `Moment.ofInternet?`: a moment with an offset from universal time
* `Moment.ofText?`: a moment in any accepted layout
-/

namespace Stencil

/-- The parts of a moment as they are read. -/
structure MomentParts where
  year : Option Int := none
  month : Option Nat := none
  day : Option Nat := none
  hour : Option Nat := none
  minute : Option Nat := none
  second : Option Nat := none
  nano : Option Nat := none

namespace MomentParts

/-- The date, if it is complete and exists. -/
def date? (parts : MomentParts) : Option Date := do
  let date : Date := ⟨← parts.year, ← parts.month, ← parts.day⟩
  if date.isValid then some date else none

/-- The second of the day and the fraction, if the time is complete. A 60th second is a
leap second. -/
def time? (parts : MomentParts) : Option (Nat × Nat) := do
  let hour ← parts.hour
  let minute ← parts.minute
  let second := parts.second.getD 0
  let (second, extra) := if second = 60 then (59, Nat.pow 10 9) else (second, 0)
  return (hour * 3600 + minute * 60 + second, extra + parts.nano.getD 0)

/-- The moment, if date and time are complete. -/
def moment? (parts : MomentParts) : Option Moment := do
  let date ← parts.date?
  let (second, nano) ← parts.time?
  return ⟨date, second, nano⟩

end MomentParts

namespace LayoutItem

/-- Reads a number of between `least` and `most` digits. -/
def readDigits? (least most : Nat) (text : Text) : Option (Nat × Text) :=
  let digits := (text.take most).takeWhile Char.isDigit
  if least ≤ digits.length ∧ digits ≠ [] then
    some (Text.digitsValue digits, text.drop digits.length)
  else none

/-- Reads the places of a fraction, of which the first nine count. -/
def readFraction? (text : Text) : Option (Nat × Text) := do
  let (value, rest) ← readDigits? 1 9 text
  let length := text.length - rest.length
  return (value * Nat.pow 10 (9 - length), rest.dropWhile Char.isDigit)

/-- Reads a year: up to four digits, or a sign with any number of them. -/
def readYear? (text : Text) : Option (Int × Text) :=
  match text with
  | '-' :: rest => (readDigits? 1 rest.length rest).map fun (n, rest) => (-(n : Int), rest)
  | '+' :: rest => (readDigits? 1 rest.length rest).map fun (n, rest) => ((n : Int), rest)
  | _ => (readDigits? 1 4 text).map fun (n, rest) => ((n : Int), rest)

/-- Reads two digits at most, up to a greatest value. -/
def readSmall? (most : Nat) (text : Text) : Option (Nat × Text) :=
  (readDigits? 1 2 text).filter fun (n, _) => n ≤ most

/-- Reads one item from the front of a text. -/
def read? (parts : MomentParts) (text : Text) : LayoutItem → Option (MomentParts × Text)
  | .literal expected => (expected.isPrefixOf? text).map fun rest => (parts, rest)
  | .blanks _ => some (parts, text.dropWhile Text.isBlank)
  | .number field _ =>
    let text := text.dropWhile Text.isBlank
    match field with
    | .year => (readYear? text).map fun (n, rest) => ({ parts with year := some n }, rest)
    | .month =>
      ((readSmall? 12 text).filter (1 ≤ ·.1)).map fun (n, rest) =>
        ({ parts with month := some n }, rest)
    | .day =>
      ((readSmall? 31 text).filter (1 ≤ ·.1)).map fun (n, rest) =>
        ({ parts with day := some n }, rest)
    | .hour => (readSmall? 23 text).map fun (n, rest) => ({ parts with hour := some n }, rest)
    | .minute => (readSmall? 59 text).map fun (n, rest) => ({ parts with minute := some n }, rest)
    | .second => (readSmall? 60 text).map fun (n, rest) => ({ parts with second := some n }, rest)
    | _ => none
  | .fraction =>
    match text with
    | '.' :: rest => (readFraction? rest).map fun (n, rest) => ({ parts with nano := some n }, rest)
    | _ => some (parts, text)
  | _ => none

/-- Reads items one after the other; nothing may be left behind the last. -/
def readItems? (parts : MomentParts) (text : Text) : List LayoutItem → Option MomentParts
  | [] => if text = [] then some parts else none
  | item :: items => (read? parts text item).bind fun (parts, rest) => readItems? parts rest items

/-- Reads a whole text in a layout. -/
def readAll? (layout text : Text) : Option MomentParts :=
  (ofText? layout).bind (readItems? {} text)

end LayoutItem

namespace Moment

open LayoutItem (readDigits? readFraction?)

/-- Takes a given character from the front of a text. -/
def takeChar? (c : Char) : Text → Option Text
  | d :: rest => if c = d then some rest else none
  | [] => none

/-- Whether a text is an offset from universal time: `Z`, or a sign with hours up to 23 and
minutes up to 59. -/
def isOffset (text : Text) : Bool :=
  match text with
  | ['Z'] | ['z'] => true
  | sign :: h1 :: h2 :: ':' :: m1 :: m2 :: [] =>
    "+-\u2212".toList.contains sign && [h1, h2, m1, m2].all Char.isDigit &&
      Text.digitsValue [h1, h2] ≤ 23 && Text.digitsValue [m1, m2] ≤ 59
  | _ => false

/-- Reads a date and a time of full length with an offset from universal time. The result
is the local time. -/
def ofInternet? (text : Text) : Option Moment := do
  let (year, text) ← readDigits? 4 4 text
  let (month, text) ← readDigits? 2 2 (← takeChar? '-' text)
  let (day, text) ← readDigits? 2 2 (← takeChar? '-' text)
  let text ←
    match text with
    | c :: rest => if c = 't' ∨ c = 'T' ∨ c = ' ' then some rest else none
    | [] => none
  let (hour, text) ← readDigits? 2 2 text
  let (minute, text) ← readDigits? 2 2 (← takeChar? ':' text)
  let (second, text) ← readDigits? 2 2 (← takeChar? ':' text)
  let (nano, text) ←
    match text with
    | '.' :: rest => readFraction? rest
    | _ => some (0, text)
  if hour ≤ 23 ∧ minute ≤ 59 ∧ second ≤ 60 ∧ isOffset text then
    MomentParts.moment? ⟨some year, some month, some day, some hour, some minute, some second, some nano⟩
  else none

/-- The accepted layouts of a date with a time. -/
def dateTimeLayouts : List Text :=
  ["%Y-%m-%d %H:%M:%S", "%Y-%m-%d %H:%M:%S%.f", "%Y-%m-%dT%H:%M:%S%.f", "%Y-%m-%d %H:%M",
    "%Y-%m-%dT%H:%M", "%d.%m.%Y %H:%M:%S", "%d.%m.%Y %H:%M", "%m/%d/%Y %H:%M:%S",
    "%m/%d/%Y %H:%M"]

/-- The accepted layouts of a date. -/
def dateLayouts : List Text :=
  ["%Y-%m-%d", "%Y/%m/%d", "%d.%m.%Y", "%d-%m-%Y", "%m/%d/%Y"]

/-- The accepted layouts of a time of day. -/
def timeLayouts : List Text := ["%H:%M:%S", "%H:%M"]

/-- Reads a moment: a count of seconds, or date and time in an accepted layout. A date
alone means its start, and a time alone means the date of `today`. -/
def ofText? (today : Date) (text : Text) : Option Moment :=
  let digits := match text with | '-' :: rest => rest | _ => text
  if !text.any Char.isDigit then none
  else if digits.all Char.isDigit then (Text.integer? text).bind ofTimestamp?
  else
    (ofInternet? text).or <|
      (dateTimeLayouts.findSome? fun layout =>
        (LayoutItem.readAll? layout text).bind MomentParts.moment?).or <|
      (dateLayouts.findSome? fun layout =>
        ((LayoutItem.readAll? layout text).bind MomentParts.date?).map ofDate).or <|
      timeLayouts.findSome? fun layout =>
        ((LayoutItem.readAll? layout text).bind MomentParts.time?).map fun (second, nano) =>
          ⟨today, second, nano⟩

end Moment

end Stencil
