import Stencil.Text.Blank
import Stencil.Value.Basic

/-!
# Sectioned settings files

Reads files of keys and values in sections: every line is blank, a comment, the head of a
section in brackets, or a key and a value with an equals sign between them. All values are
texts.

## Main definitions

* `Ini.Line`, `Ini.Line.ofText?`: the kinds of lines
* `Ini.parse?`: the fields before the first section, followed by the sections as objects
-/

namespace Stencil.Ini

/-- The kinds of lines. -/
inductive Line where
  /-- An empty line or a comment. -/
  | void
  /-- The head of a section. -/
  | section (name : Text)
  /-- A key with its value. -/
  | entry (key value : Text)
  deriving DecidableEq, Repr

/-- Reads a line. The name of a section holds no bracket, and a line that is neither empty
nor a comment nor a head has an equals sign. -/
def Line.ofText? (line : Text) : Option Line :=
  match line with
  | [] => some .void
  | '[' :: rest =>
    let name := rest.dropLast
    if rest.getLast? = some ']' ∧ !name.any (fun c => c == '[' || c == ']') then
      some (.section name)
    else none
  | c :: _ =>
    if c = ';' ∨ c = '#' then some .void
    else
      (Text.cut? ['='] line).map fun (key, value) => .entry (Text.trim key) (Text.trim value)

/-- The lines of a text, without their ends. A carriage return belongs to the end of a line
if a line feed follows it. -/
def lines (text : Text) : List Text :=
  let parts := Text.split (· == '\n') text
  (parts.dropLast.map fun line => if line.getLast? = some '\r' then line.dropLast else line) ++
    parts.getLast?.toList

/-- The fields of the lines up to the next head of a section, and the lines from there on. -/
def takeFields : List Line → Bindings × List Line
  | [] => ([], [])
  | .void :: rest => takeFields rest
  | .entry key value :: rest =>
    let (fields, rest) := takeFields rest
    ((key, .text value) :: fields, rest)
  | .section name :: rest => ([], .section name :: rest)

theorem length_takeFields (lines : List Line) :
    (takeFields lines).2.length ≤ lines.length := by
  fun_induction takeFields lines <;> simp_all <;> omega

/-- The sections as objects. -/
def sections : List Line → Bindings
  | .section name :: rest =>
    (name, .object none (Bindings.ofPairs (takeFields rest).1)) :: sections (takeFields rest).2
  | _ => []
termination_by lines => lines.length
decreasing_by
  have := length_takeFields rest
  simp only [List.length_cons]
  omega

/-- Reads a whole text as an object. -/
def parse? (text : Text) : Option Value :=
  ((lines text).mapM Line.ofText?).map fun lines =>
    let (fields, rest) := takeFields lines
    .object none (Bindings.ofPairs (fields ++ sections rest))

end Stencil.Ini
