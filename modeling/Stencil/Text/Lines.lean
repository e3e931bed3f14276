import Stencil.Text.Basic

/-!
# Lines

A line runs up to and including the characters that end it: a line feed, a carriage return,
or both in this order. What follows the last end is a line too, unless it is empty.

## Main definitions

* `Text.linesFrom`, `Text.lines`: the lines of a text
* `Text.closed`: a line that surely has an end

## Main results

* `Text.flatten_lines`: the lines of a text make up the text
-/

namespace Stencil.Text

/-- The lines of a text behind the start of a line, which is given in reverse. -/
def linesFrom : (start : Text) → Text → List Text
  | [], [] => []
  | start, [] => [start.reverse]
  | start, '\r' :: '\n' :: rest => ('\n' :: '\r' :: start).reverse :: linesFrom [] rest
  | start, c :: rest =>
    if c = '\n' ∨ c = '\r' then (c :: start).reverse :: linesFrom [] rest
    else linesFrom (c :: start) rest

/-- The lines of a text, with their ends. -/
def lines (text : Text) : List Text :=
  linesFrom [] text

theorem flatten_linesFrom (start text : Text) :
    (linesFrom start text).flatten = start.reverse ++ text := by
  fun_induction linesFrom start text <;> simp_all

/-- The lines of a text make up the text. -/
theorem flatten_lines (text : Text) : (lines text).flatten = text :=
  flatten_linesFrom [] text

/-- A line with an end: a line feed is added if it has none. -/
def closed (line : Text) : Text :=
  match line.getLast? with
  | some '\n' | some '\r' => line
  | _ => line ++ ['\n']

end Stencil.Text
