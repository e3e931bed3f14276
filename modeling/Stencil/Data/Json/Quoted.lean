import Stencil.Text.Basic

/-!
# JSON strings

A string stands in double quotes. Quotes and backslashes get a backslash in front of them,
and control characters are written as escapes; the ones with an own letter are written with
it, all others with four hexadecimal digits.

## Main definitions

* `Json.escaped`: the written form of a character inside a string
* `Json.quoted`: the written form of a text
-/

namespace Stencil.Json

/-- The written form of a character inside a string. -/
def escaped (c : Char) : Text :=
  match c with
  | '"' => ['\\', '"']
  | '\\' => ['\\', '\\']
  | '\x08' => ['\\', 'b']
  | '\t' => ['\\', 't']
  | '\n' => ['\\', 'n']
  | '\x0c' => ['\\', 'f']
  | '\r' => ['\\', 'r']
  | _ =>
    if c.toNat < 32 then
      ['\\', 'u', '0', '0', Nat.digitChar (c.toNat / 16), Nat.digitChar (c.toNat % 16)]
    else [c]

/-- The written form of a text. -/
def quoted (text : Text) : Text :=
  '"' :: text.flatMap escaped ++ ['"']

end Stencil.Json
