import Stencil.Command.Invocation
import Stencil.Data.Json.Quoted
import Stencil.Diff.Tidy
import Stencil.Markup.Placeholder
import Stencil.Text.Lines

/-!
# Reports

What the commands print about a template: the list of its placeholders, as lines or as a
JSON document, and the lines in which a filled template differs from what was expected.

## Main definitions

* `placeholderReport`: the list of placeholders
* `changeReport`: the lines that stay, go and come
-/

namespace Stencil.Command

open Markup (Placeholder)

/-! ### Placeholders -/

/-- The line of a placeholder: its offset, its kind and its directive. -/
def placeholderLine (placeholder : Placeholder) : Text :=
  "  ".toList ++ Text.padLeft 6 ' ' (Text.ofNat placeholder.offset) ++ "  ".toList ++
    Text.padRight 6 ' ' placeholder.kind.name ++ "  ".toList ++ placeholder.directive ++ ['\n']

/-- The list of placeholders as lines. -/
def placeholderLines (template : Text) (placeholders : List Placeholder) : Text :=
  if placeholders = [] then "No placeholders found in ".toList ++ template ++ ".\n".toList
  else
    template ++ ['\n'] ++ placeholders.flatMap placeholderLine ++ ['\n'] ++
      Text.ofNat placeholders.length ++ " placeholder(s) found.\n".toList

/-- The fields of an object in a document, one to a line behind an indentation. -/
def jsonFields (indentation : Nat) (fields : List (Text × Text)) : Text :=
  Text.join ",\n" (fields.map fun (name, value) =>
    List.replicate indentation ' ' ++ Json.quoted name ++ ": ".toList ++ value)

/-- The object of a placeholder. -/
def placeholderObject (placeholder : Placeholder) : Text :=
  "    \x7b\n".toList ++
    jsonFields 6 [("raw", Json.quoted placeholder.raw),
      ("directive", Json.quoted placeholder.directive),
      ("kind", Json.quoted placeholder.kind.name),
      ("offset", Text.ofNat placeholder.offset)] ++
    "\n    \x7d".toList

/-- The list of placeholders as a document. -/
def placeholderDocument (template : Text) (placeholders : List Placeholder) : Text :=
  let list :=
    if placeholders = [] then "[]".toList
    else
      "[\n".toList ++ Text.join ",\n" (placeholders.map placeholderObject) ++ "\n  ]".toList
  "\x7b\n".toList ++
    jsonFields 2 [("template", Json.quoted template), ("placeholders", list)] ++
    "\n\x7d\n".toList

/-- The list of the placeholders of a template. -/
def placeholderReport (format : ListFormat) (template : Text) (placeholders : List Placeholder) :
    Text :=
  match format with
  | .text => placeholderLines template placeholders
  | .json => placeholderDocument template placeholders

/-! ### Changes -/

/-- The lines of a step: those that stay have a blank at their start, those that go a minus,
and those that come a plus. -/
def changeLines : Edit Text → Text
  | .keep line => "   ".toList ++ Text.closed line
  | .delete line => "  -".toList ++ Text.closed line
  | .insert block => block.flatMap fun line => "  +".toList ++ Text.closed line

/-- The lines in which a result differs from what was expected. -/
def changeReport (expected result : Text) : Text :=
  (Edit.tidy (Diff.between (Text.lines expected) (Text.lines result))).flatMap changeLines ++ ['\n']

end Stencil.Command
