import Stencil.Text.Quoted
import Stencil.Expr.Basic

/-!
# Tokens

An expression is a sequence of tokens with blanks between them: numbers, quoted texts,
names, keywords, operators and parentheses. Every token is the longest one that starts at
its place.

## Main definitions

* `Token`: the tokens
* `Token.written`: the written form of a token
* `Token.read`: the token at the start of a text
* `tokenize`: all tokens of a text
-/

namespace Stencil

/-- A token of an expression. -/
inductive Token where
  | number (value : Number)
  | text (quote : Char) (content : Text)
  | name (path : Text)
  | trueWord
  | falseWord
  | nullWord
  | op (op : BinaryOp)
  | not
  | openParen
  | closeParen
  deriving DecidableEq, Repr

namespace Token

/-- The written form of a token. -/
def written : Token → Text
  | .number value => value.text
  | .text quote content => quote :: content ++ [quote]
  | .name path => path
  | .trueWord => "true"
  | .falseWord => "false"
  | .nullWord => "null"
  | .op operator => operator.sign
  | .not => "!"
  | .openParen => "("
  | .closeParen => ")"

/-! ### Parts of tokens -/

/-- The blanks between tokens. -/
def isSpace (c : Char) : Bool :=
  c == ' ' || c == '\t' || c == '\r' || c == '\n' || c == '\x0c'

/-- The characters that a name may start with. -/
def startsName (c : Char) : Bool := c.isAlpha || c == '_'

/-- The characters that a name is made of. -/
def inName (c : Char) : Bool := c.isAlphanum || c == '_'

/-- The longest beginning made of name characters and of dots in front of one. -/
def takeName : Text → Text
  | [] => []
  | c :: rest =>
    if inName c || (c == '.' && rest.head?.any inName) then c :: takeName rest else []

/-- The digits at the start of a text. -/
def takeDigits (text : Text) : Text := text.takeWhile Char.isDigit

/-- A point with digits behind it at the start of a text, or nothing. -/
def takeFraction : Text → Text
  | '.' :: rest => if takeDigits rest = [] then [] else '.' :: takeDigits rest
  | _ => []

/-- An exponent at the start of a text, or nothing. -/
def takeExponent : Text → Text
  | e :: rest =>
    if e = 'e' ∨ e = 'E' then
      let sign := rest.takeWhile fun c => c == '+' || c == '-'
      let digits := takeDigits (rest.drop sign.length)
      if sign.length ≤ 1 ∧ digits ≠ [] then e :: sign ++ digits else []
    else []
  | [] => []

/-- The longest number at the start of a text: digits, a fraction and an exponent. -/
def takeNumber (text : Text) : Text :=
  let whole := takeDigits text
  let fraction := takeFraction (text.drop whole.length)
  let exponent := takeExponent (text.drop (whole.length + fraction.length))
  whole ++ fraction ++ exponent

/-- The content of a quoted text up to its closing quote. A backslash protects the
character behind it, which must not be a line feed. Without a closing quote the result is
what had been read. -/
def takeQuoted (quote : Char) : Text → Except Text Text
  | [] => .error []
  | '\\' :: c :: rest =>
    if c = '\n' then .error ['\\']
    else
      match takeQuoted quote rest with
      | .ok content => .ok ('\\' :: c :: content)
      | .error content => .error ('\\' :: c :: content)
  | c :: rest =>
    if c = quote then .ok []
    else
      match takeQuoted quote rest with
      | .ok content => .ok (c :: content)
      | .error content => .error (c :: content)

/-- The meaning of the content of a quoted text; a content without a backslash stands for
itself. -/
def contentMeaning? (content : Text) : Option Text :=
  if content.elem '\\' then Text.unescape? content else some content

/-- The keyword or name that a word is; keywords are recognised in any letter case. -/
def ofWord (word : Text) : Token :=
  match [("true", trueWord), ("false", falseWord), ("null", nullWord), ("and", op .and),
      ("or", op .or), ("not", not)].find? fun (keyword, _) => keyword.toList == Text.lower word with
  | some (_, token) => token
  | none => .name word

/-- The tokens of one sign. -/
def ofSign? (c : Char) : Option Token :=
  [('(', openParen), (')', closeParen), ('+', op .add), ('-', op .sub), ('*', op .mul),
    ('/', op .div), ('%', op .rem), ('<', op .lt), ('>', op .gt), ('!', not)].lookup c

/-- The tokens of two signs. -/
def ofSigns? (c d : Char) : Option Token :=
  [(('=', '='), op .eq), (('!', '='), op .notEq), (('<', '='), op .ltEq), (('>', '='), op .gtEq),
    (('&', '&'), op .and), (('|', '|'), op .or)].lookup (c, d)

/-! ### Reading tokens -/

/-- The token that starts with the character `c`, and how many further characters belong to
it. `offset` is the place of `c`, for errors. -/
def read (offset : Nat) (c : Char) (rest : Text) : Except ExprError (Token × Nat) :=
  if startsName c then
    let word := c :: takeName rest
    .ok (ofWord word, word.length - 1)
  else if c.isDigit then
    let digits := takeNumber (c :: rest)
    match Number.ofText? digits with
    | some value => .ok (.number value, digits.length - 1)
    | none => .error (.unexpectedCharacter digits offset)
  else if Text.isQuote c then
    match takeQuoted c rest with
    | .error content => .error (.unexpectedCharacter (c :: content) offset)
    | .ok content =>
      match contentMeaning? content with
      | some meaning => .ok (.text c meaning, content.length + 1)
      | none => .error (.invalidString offset)
  else
    match rest.head?.bind (ofSigns? c) with
    | some token => .ok (token, 1)
    | none =>
      match ofSign? c with
      | some token => .ok (token, 0)
      | none => .error (.unexpectedCharacter [c] offset)

end Token

/-- The tokens of a text. `skip` counts characters that belong to a token read before, and
`offset` is the byte offset of the text. -/
def tokenizeFrom : (skip offset : Nat) → Text → Except ExprError (List Token)
  | _, _, [] => .ok []
  | skip + 1, offset, c :: rest => tokenizeFrom skip (offset + c.utf8Size) rest
  | 0, offset, c :: rest =>
    if Token.isSpace c then tokenizeFrom 0 (offset + c.utf8Size) rest
    else
      match Token.read offset c rest with
      | .error e => .error e
      | .ok (token, further) =>
        match tokenizeFrom further (offset + c.utf8Size) rest with
        | .ok tokens => .ok (token :: tokens)
        | .error e => .error e

/-- The tokens of a text; an error names the first place that starts no token. -/
def tokenize (source : Text) : Except ExprError (List Token) :=
  tokenizeFrom 0 0 source

end Stencil
