import Stencil.Text.Basic

/-!
# Settings

What can be set for all renders: how directive arguments are separated, what becomes of
placeholders without a value, the layouts of dates, times and numbers, where imported
templates lie, and which data files supply values.

## Main definitions

* `Fallback`, `Fallback.replacement?`: what stands for a placeholder without a value
* `DataSource`: a data file with an optional name of its format
* `Settings`: all settings, with their defaults
-/

namespace Stencil

/-- What becomes of a placeholder without a value. -/
inductive Fallback where
  /-- The placeholder stays as it is. -/
  | keep
  /-- The placeholder is removed. -/
  | remove
  /-- The placeholder is replaced by a text. -/
  | text (replacement : Text)
  deriving DecidableEq, Repr

/-- The text that stands for a placeholder without a value, if it is replaced at all. -/
def Fallback.replacement? : Fallback → Option Text
  | .keep => none
  | .remove => some []
  | .text replacement => some replacement

/-- A file that supplies a value. -/
structure DataSource where
  /-- The path of the file. -/
  path : Text
  /-- The name of its format; without one the extension of the path decides. -/
  formatName : Option Text := none
  deriving DecidableEq, Repr

/-- The settings of all renders. -/
structure Settings where
  /-- The character between the arguments of a directive. -/
  separator : Char := ';'
  /-- What becomes of placeholders without a value. -/
  fallback : Fallback := .keep
  /-- Whether issues are recorded. -/
  recordIssues : Bool := true
  /-- The usual layout of dates. -/
  dateLayout : Text := "%Y-%m-%d"
  /-- The usual layout of times. -/
  timeLayout : Text := "%H:%M"
  /-- The usual decimal point. -/
  decimalPoint : Text := "."
  /-- The usual separator between thousands. -/
  thousandsSeparator : Text := ","
  /-- The directory in which imported templates lie. -/
  templateRoot : Option Text := none
  /-- How deep blocks and imports may nest. -/
  maxDepth : Nat := 64
  /-- The files that supply values, under the names of these values. -/
  sources : List (Text × DataSource) := []
  deriving DecidableEq, Repr

end Stencil
