import Stencil.Text.Basic

/-!
# HTML

Texts in HTML documents: characters with a meaning of their own are written as entities,
and line breaks get a tag.

## Main definitions

* `Text.escapeHtml`: markup characters as entities
* `Text.breakLines`: a break tag in front of every line break
-/

namespace Stencil.Text

/-- The written form of a character in HTML. -/
def htmlForm (c : Char) : Text :=
  if c = '&' then "&amp;"
  else if c = '<' then "&lt;"
  else if c = '>' then "&gt;"
  else if c = '"' then "&quot;"
  else [c]

/-- The text with markup characters written as entities. -/
def escapeHtml (text : Text) : Text :=
  text.flatMap htmlForm

/-- The text with a break tag in front of every line break: a line feed, a carriage return,
or both in this order. -/
def breakLines : Text → Text
  | '\r' :: '\n' :: rest => "<br />\r\n".toList ++ breakLines rest
  | c :: rest =>
    if c = '\r' ∨ c = '\n' then "<br />".toList ++ c :: breakLines rest else c :: breakLines rest
  | [] => []

end Stencil.Text
