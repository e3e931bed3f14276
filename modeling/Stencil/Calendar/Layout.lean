import Stencil.Text.Blank
import Stencil.Number.Decimal
import Stencil.Calendar.Date

/-!
# Layouts of dates and times

A layout describes how a moment is written: text with fields, each a percent sign and a
letter. Numeric fields have a usual padding, which a sign before the letter changes.

## Main definitions

* `LayoutField`: the parts of a moment that a layout can name
* `LayoutItem`, `LayoutItem.ofText?`: the items of a layout
* `Moment.format?`: the text of a moment in a layout
-/

namespace Stencil

/-- How a numeric field is filled up. -/
inductive Padding where
  | none
  | zero
  | space
  deriving DecidableEq, Repr

/-- A numeric part of a moment. -/
inductive LayoutField where
  | year
  | century
  | yearOfCentury
  | isoYear
  | isoYearOfCentury
  | quarter
  | month
  | day
  | weekFromSunday
  | weekFromMonday
  | isoWeek
  | weekdayFromSunday
  | weekdayFromMonday
  | ordinal
  | hour
  | hourOfHalf
  | minute
  | second
  | nano
  | timestamp
  deriving DecidableEq, Repr

/-- An item of a layout. -/
inductive LayoutItem where
  /-- Text that is written as it stands. -/
  | literal (text : Text)
  /-- Blanks. -/
  | blanks (text : Text)
  /-- A numeric field. -/
  | number (field : LayoutField) (padding : Padding)
  /-- The name of the month, whole or shortened. -/
  | monthName (short : Bool)
  /-- The name of the day of the week, whole or shortened. -/
  | weekdayName (short : Bool)
  /-- The half of the day, in capital or in small letters. -/
  | halfOfDay (capital : Bool)
  /-- The fraction of the second behind a point, as long as needed. -/
  | fraction
  /-- A fixed number of places of the fraction, with or without a point. -/
  | fractionPlaces (places : Nat) (point : Bool)
  deriving DecidableEq, Repr

namespace LayoutItem

/-! ### Reading layouts -/

/-- A field padded with zeros. -/
def zeros (field : LayoutField) : LayoutItem := .number field .zero

/-- A field padded with spaces. -/
def spaces (field : LayoutField) : LayoutItem := .number field .space

/-- The fields of a date in digits. -/
def slashDate : List LayoutItem :=
  [zeros .month, .literal "/", zeros .day, .literal "/", zeros .yearOfCentury]

/-- The fields of a time of day. -/
def clockTime : List LayoutItem :=
  [zeros .hour, .literal ":", zeros .minute, .literal ":", zeros .second]

/-- The items that a letter behind a percent sign stands for. -/
def ofLetter? : Char → Option (List LayoutItem)
  | 'A' => some [.weekdayName false]
  | 'B' => some [.monthName false]
  | 'C' => some [zeros .century]
  | 'D' | 'x' => some slashDate
  | 'F' => some [zeros .year, .literal "-", zeros .month, .literal "-", zeros .day]
  | 'G' => some [zeros .isoYear]
  | 'H' => some [zeros .hour]
  | 'I' => some [zeros .hourOfHalf]
  | 'M' => some [zeros .minute]
  | 'P' => some [.halfOfDay false]
  | 'R' => some [zeros .hour, .literal ":", zeros .minute]
  | 'S' => some [zeros .second]
  | 'T' | 'X' => some clockTime
  | 'U' => some [zeros .weekFromSunday]
  | 'V' => some [zeros .isoWeek]
  | 'W' => some [zeros .weekFromMonday]
  | 'Y' => some [zeros .year]
  | 'a' => some [.weekdayName true]
  | 'b' | 'h' => some [.monthName true]
  | 'c' =>
    some ([.weekdayName true, .blanks " ", .monthName true, .blanks " ", spaces .day, .blanks " "]
      ++ clockTime ++ [.blanks " ", zeros .year])
  | 'd' => some [zeros .day]
  | 'e' => some [spaces .day]
  | 'f' => some [zeros .nano]
  | 'g' => some [zeros .isoYearOfCentury]
  | 'j' => some [zeros .ordinal]
  | 'k' => some [spaces .hour]
  | 'l' => some [spaces .hourOfHalf]
  | 'm' => some [zeros .month]
  | 'n' => some [.blanks "\n"]
  | 'p' => some [.halfOfDay true]
  | 'q' => some [.number .quarter .none]
  | 'r' =>
    some [zeros .hourOfHalf, .literal ":", zeros .minute, .literal ":", zeros .second, .blanks " ",
      .halfOfDay true]
  | 's' => some [.number .timestamp .none]
  | 't' => some [.blanks "\t"]
  | 'u' => some [.number .weekdayFromMonday .none]
  | 'v' => some [spaces .day, .literal "-", .monthName true, .literal "-", zeros .year]
  | 'w' => some [.number .weekdayFromSunday .none]
  | 'y' => some [zeros .yearOfCentury]
  | '%' => some [.literal "%"]
  | _ => none

/-- The padding that a sign in front of a letter asks for. -/
def paddingOf? : Char → Option Padding
  | '-' => some .none
  | '0' => some .zero
  | '_' => some .space
  | _ => none

/-- The items behind a percent sign, and how many characters they take. A padding sign goes
with a single numeric field only. -/
def ofField? : Text → Option (List LayoutItem × Nat)
  | '.' :: 'f' :: _ => some ([.fraction], 2)
  | '.' :: '3' :: 'f' :: _ => some ([.fractionPlaces 3 true], 3)
  | '.' :: '6' :: 'f' :: _ => some ([.fractionPlaces 6 true], 3)
  | '.' :: '9' :: 'f' :: _ => some ([.fractionPlaces 9 true], 3)
  | '3' :: 'f' :: _ => some ([.fractionPlaces 3 false], 2)
  | '6' :: 'f' :: _ => some ([.fractionPlaces 6 false], 2)
  | '9' :: 'f' :: _ => some ([.fractionPlaces 9 false], 2)
  | c :: rest =>
    match paddingOf? c, rest with
    | some padding, letter :: _ =>
      match ofLetter? letter with
      | some [.number field _] => some ([.number field padding], 2)
      | _ => none
    | some _, [] => none
    | none, _ => (ofLetter? c).map fun items => (items, 1)
  | [] => none

/-- The items of a layout; none if a field is unknown. `skip` counts characters that belong
to an item read before. -/
def ofTextFrom? : (skip : Nat) → Text → Option (List LayoutItem)
  | _, [] => some []
  | skip + 1, _ :: rest => ofTextFrom? skip rest
  | 0, c :: rest =>
    if c = '%' then
      match ofField? rest with
      | some (items, length) => (ofTextFrom? length rest).map (items ++ ·)
      | none => none
    else
      let item := if Text.isBlank c then .blanks [c] else .literal [c]
      (ofTextFrom? 0 rest).map (item :: ·)

/-- The items of a layout; none if a field is unknown. -/
def ofText? (layout : Text) : Option (List LayoutItem) :=
  ofTextFrom? 0 layout

/-! ### Writing moments -/

/-- The names of the months. -/
def monthNames : List Text :=
  ["January", "February", "March", "April", "May", "June", "July", "August", "September",
    "October", "November", "December"]

/-- The names of the days of the week, from Monday. -/
def weekdayNames : List Text :=
  ["Monday", "Tuesday", "Wednesday", "Thursday", "Friday", "Saturday", "Sunday"]

/-- A number of two digits. Numbers are kept below 256, and the first digit may lie beyond
nine. -/
def twoDigits (padding : Padding) (n : Int) : Text :=
  let n := (n % 256).toNat
  let last := Char.ofNat (48 + n % 10)
  if n / 10 = 0 then
    match padding with
    | .none => [last]
    | .space => [' ', last]
    | .zero => ['0', last]
  else [Char.ofNat (48 + n / 10), last]

/-- An integer filled up to a width; `signed` also writes a plus sign, beyond the width.
Zeros stand behind the sign and spaces in front of it. -/
def padded (padding : Padding) (width : Nat) (signed : Bool) (n : Int) : Text :=
  let sign : Text := if n < 0 then ['-'] else if signed then ['+'] else []
  let digits := Text.ofNat n.natAbs
  let width := if signed then width + 1 else width
  match padding with
  | .none => sign ++ digits
  | .zero => sign ++ Text.padLeft (width - sign.length) '0' digits
  | .space => Text.padLeft width ' ' (sign ++ digits)

/-- A year: at least four digits, with a sign outside of the years from 0 to 9999. -/
def yearText (padding : Padding) (year : Int) : Text :=
  padded padding 4 (year < 0 || 9999 < year) year

/-- The text of a numeric field. -/
def fieldText (moment : Moment) (padding : Padding) : LayoutField → Text
  | .year => yearText padding moment.date.year
  | .century => twoDigits padding (moment.date.year / 100)
  | .yearOfCentury => twoDigits padding (moment.date.year % 100)
  | .isoYear => yearText padding moment.date.isoWeek.1
  | .isoYearOfCentury => twoDigits padding (moment.date.isoWeek.1 % 100)
  | .quarter => Text.ofNat ((moment.date.month - 1) / 3 + 1)
  | .month => twoDigits padding moment.date.month
  | .day => twoDigits padding moment.date.day
  | .weekFromSunday => twoDigits padding (moment.date.weekFrom 6)
  | .weekFromMonday => twoDigits padding (moment.date.weekFrom 0)
  | .isoWeek => twoDigits padding moment.date.isoWeek.2
  | .weekdayFromSunday => Text.ofNat ((moment.date.weekday + 1) % 7)
  | .weekdayFromMonday => Text.ofNat (moment.date.weekday + 1)
  | .ordinal => padded padding 3 false moment.date.ordinal
  | .hour => twoDigits padding moment.hour
  | .hourOfHalf => twoDigits padding ((moment.hour + 11) % 12 + 1 : Nat)
  | .minute => twoDigits padding moment.minute
  | .second => twoDigits padding moment.secondOfMinute
  | .nano => padded padding 9 false (moment.nano % Nat.pow 10 9 : Nat)
  | .timestamp => padded padding 9 false moment.timestamp

/-- The first places of the fraction of a second. -/
def placesText (places nano : Nat) : Text :=
  Text.padLeft places '0' (Text.ofNat (nano / Nat.pow 10 (9 - places)))

/-- The text of an item for a moment. -/
def text (moment : Moment) : LayoutItem → Text
  | .literal text => text
  | .blanks text => text
  | .number field padding => fieldText moment padding field
  | .monthName short =>
    let name := monthNames.getD (moment.date.month - 1) []
    if short then name.take 3 else name
  | .weekdayName short =>
    let name := weekdayNames.getD moment.date.weekday []
    if short then name.take 3 else name
  | .halfOfDay capital =>
    if moment.hour < 12 then if capital then "AM" else "am"
    else if capital then "PM" else "pm"
  | .fraction =>
    let nano := moment.nano % Nat.pow 10 9
    if nano = 0 then []
    else if nano % Nat.pow 10 6 = 0 then '.' :: placesText 3 nano
    else if nano % Nat.pow 10 3 = 0 then '.' :: placesText 6 nano
    else '.' :: placesText 9 nano
  | .fractionPlaces places point =>
    (if point then ['.'] else []) ++ placesText places (moment.nano % Nat.pow 10 9)

end LayoutItem

/-- The text of a moment in a layout; none if the layout has an unknown field. -/
def Moment.format? (moment : Moment) (layout : Text) : Option Text :=
  (LayoutItem.ofText? layout).map fun items => items.flatMap (LayoutItem.text moment)

end Stencil
