import Stencil.Settings.Basic
import Stencil.Text.Case
import Stencil.Text.Html
import Stencil.Text.Quoted
import Stencil.Value.Display
import Stencil.Value.Path
import Stencil.Pattern.Replace
import Stencil.Calendar.Reading

/-!
# Directives

A directive turns a value into another one, guided by up to three arguments. Arguments may
be quoted, and an argument without text counts as missing where a default exists for it.

## Main definitions

* `Directive`, `Directive.name`, `Directive.ofName?`: the directives and their names
* `Surroundings`: what a directive can see besides its value and its arguments
* `Value.moment?`: the moment that a value means
* `Directive.apply`: the value that a directive gives
-/

namespace Stencil

/-- The directives that are always there. -/
inductive Directive where
  /-- The count of seconds of the present moment. -/
  | now
  /-- The present date. -/
  | today
  /-- The date of a moment. -/
  | date
  /-- The time of a moment. -/
  | time
  /-- The date and the time of a moment. -/
  | dateTime
  /-- All letters in upper case. -/
  | upper
  /-- All letters in lower case. -/
  | lower
  /-- Every word with a capital letter. -/
  | title
  /-- A number with fixed places and separated thousands. -/
  | round
  /-- Markup characters as entities. -/
  | escape
  /-- A break tag in front of every line break. -/
  | lineBreaks
  /-- At most a number of characters. -/
  | truncate
  /-- No padding at the ends. -/
  | trim
  /-- A further text behind the value. -/
  | concat
  /-- Other text in place of a pattern. -/
  | replace
  deriving DecidableEq, Repr

namespace Directive

/-- All directives. -/
def all : List Directive :=
  [now, today, date, time, dateTime, upper, lower, title, round, escape, lineBreaks, truncate,
    trim, concat, replace]

/-- The name of a directive. -/
def name : Directive → Text
  | now => "now"
  | today => "today"
  | date => "date"
  | time => "time"
  | dateTime => "datetime"
  | upper => "upper"
  | lower => "lower"
  | title => "title"
  | round => "round"
  | escape => "escape"
  | lineBreaks => "nl2br"
  | truncate => "truncate"
  | trim => "trim"
  | concat => "concat"
  | replace => "replace"

/-- The directive with a name, in any letter case; `e` is short for `escape`. -/
def ofName? (name : Text) : Option Directive :=
  let name := Text.lower name
  if name = ['e'] then some escape else all.find? fun directive => directive.name == name

/-- The most arguments of a directive. -/
def maxArguments : Nat := 3

end Directive

/-- What a directive can see besides its value and its arguments. -/
structure Surroundings where
  /-- The settings of the render. -/
  settings : Settings
  /-- The supplied values. -/
  values : Scope
  /-- The present moment, in seconds from the start of 1970. -/
  clock : Int

namespace Surroundings

/-- The present date. -/
def today (surroundings : Surroundings) : Date :=
  Date.ofDayNumber (surroundings.clock / 86400)

end Surroundings

namespace Value

/-- The moment that a value means: a count of seconds, or a text in an accepted layout. -/
def moment? (today : Date) : Value → Option Moment
  | .number n => Moment.ofTimestamp? n.toInt64
  | .text content => Moment.ofText? today (Text.trim content)
  | _ => none

end Value

/-- Reads a number written with given separators. Blanks and the separators between
thousands are skipped. -/
def Number.ofLocalText? (point thousands text : Text) : Option Number :=
  let digits := text.filter fun c => !Text.isBlank c
  let digits := if thousands = [] then digits else Text.replaceAll thousands [] digits
  let digits := if point = [] ∨ point = ['.'] then digits else Text.replaceAll point "." digits
  (Number.ofText? digits).filter Number.isFinite

namespace Directive

/-- The arguments of a directive, as they stand in a template. -/
abbrev Arguments := List Text

/-- The argument at an index without quotes, unless it is empty. -/
def Arguments.given? (arguments : Arguments) (index : Nat) : Option Text :=
  (arguments[index]?.map Text.unquote).filter (· ≠ [])

/-- The argument at an index without quotes, or a default if there is none. -/
def Arguments.getOr (arguments : Arguments) (index : Nat) (default : Text) : Text :=
  (arguments[index]?.map Text.unquote).getD default

/-- The moment of a value in another layout. A value that means no moment stays as it is,
and so does every value if the layout is wrong. -/
def reformat (surroundings : Surroundings) (value : Value) (layout : Moment → Option Text) :
    Value :=
  match (value.moment? surroundings.today).bind layout with
  | some text => .text text
  | none => value

/-- The count of seconds, kept within 64 bits, of a moment some seconds from now. -/
def shiftedClock (surroundings : Surroundings) (shift : Int) : Value :=
  .number (Number.ofInt (Int.bmod (surroundings.clock + shift) (Width.size 64)))

/-- A date some days from today in a layout, if both are possible. -/
def shiftedDate? (surroundings : Surroundings) (layout : Text) (shift : Int) : Option Text :=
  (Date.ofDayNumber? (surroundings.clock / 86400 + shift)).bind fun date =>
    (Moment.ofDate date).format? layout

/-- A date and a time with a separator between them. -/
def joinedMoment? (dateLayout timeLayout separator : Text) (moment : Moment) : Option Text := do
  let date ← moment.format? dateLayout
  let time ← moment.format? timeLayout
  return date ++ separator ++ time

/-- A number, or a text that spells one with given separators, with a number of places. -/
def rounded (value : Value) (places : Nat) (point thousands : Text) : Value :=
  let number? : Option Number :=
    match value with
    | .number n => some n
    | _ => Number.ofLocalText? point thousands value.display
  match number? with
  | some n => .text (n.grouped places point thousands)
  | none => value

/-- At most `most` characters of a text; where some are cut off, `suffix` stands for them. -/
def truncated (most : Nat) (suffix text : Text) : Text :=
  if most < text.length then text.take most ++ suffix else text

/-- The text that an argument names: a quoted text, the display of a supplied value, or else
the argument itself. -/
def namedText (values : Scope) (argument : Text) : Text :=
  if Text.isQuoted argument then Text.unquote argument
  else ((Path.resolve? values.lookup argument).map Value.display).getD argument

/-- The value that a directive gives. -/
def apply (surroundings : Surroundings) (value : Value) (arguments : Arguments) :
    Directive → Value
  | now => shiftedClock surroundings (((arguments.given? 0).bind Text.integer?).getD 0)
  | today =>
    let layout := (arguments.given? 0).getD surroundings.settings.dateLayout
    let shift := ((arguments.given? 1).bind Text.integer?).getD 0
    ((shiftedDate? surroundings layout shift).map Value.text).getD value
  | date =>
    let layout := (arguments.given? 0).getD surroundings.settings.dateLayout
    reformat surroundings value fun moment => moment.format? layout
  | time =>
    let layout := (arguments.given? 0).getD surroundings.settings.timeLayout
    reformat surroundings value fun moment => moment.format? layout
  | dateTime =>
    let dateLayout := (arguments.given? 0).getD surroundings.settings.dateLayout
    let timeLayout := (arguments.given? 1).getD surroundings.settings.timeLayout
    reformat surroundings value (joinedMoment? dateLayout timeLayout (arguments.getOr 2 " "))
  | upper => .text (Text.upperCase value.display)
  | lower => .text (Text.lowerCase value.display)
  | title => .text (Text.titleCase value.display)
  | round =>
    rounded value (((arguments.given? 0).bind Text.natural?).getD 2)
      (arguments.getOr 1 surroundings.settings.decimalPoint)
      (arguments.getOr 2 surroundings.settings.thousandsSeparator)
  | escape => .text (Text.escapeHtml value.display)
  | lineBreaks => .text (Text.breakLines value.display)
  | truncate =>
    .text (truncated (((arguments.given? 0).bind Text.natural?).getD 20)
      (arguments.getOr 1 "...") value.display)
  | trim =>
    match arguments.given? 0 with
    | some padding => .text (Text.trimBy padding.contains value.display)
    | none => .text (Text.trim value.display)
  | concat =>
    match arguments with
    | [] => value
    | argument :: _ =>
      .text (value.display ++ arguments.getOr 1 " " ++ namedText surroundings.values argument)
  | replace =>
    match arguments.given? 0 with
    | none => value
    | some pattern =>
      ((Text.replacePattern? value.display pattern (arguments.getOr 1 [])).map Value.text).getD value

end Directive

end Stencil
