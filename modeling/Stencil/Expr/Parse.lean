import Stencil.Expr.Token

/-!
# Reading expressions

The grammar has six levels of binary operators, all joining to the left, above signs and
parentheses:

    or         = and ( "||" and )*
    and        = equality ( "&&" equality )*
    equality   = comparison ( ("==" | "!=") comparison )*
    comparison = sum ( ("<" | "<=" | ">" | ">=") sum )*
    sum        = product ( ("+" | "-") product )*
    product    = unary ( ("*" | "/" | "%") unary )*
    unary      = ("!" | "-") unary | primary
    primary    = number | text | true | false | null | path | "(" or ")"

The words `or`, `and` and `not` are other spellings of `||`, `&&` and `!`.

## Main definitions

* `Parser`: a function that reads an expression from the front of a list of tokens
* `Parser.chain`: one level of binary operators above another
* `Parser.operand`: a level of signs and parentheses of bounded depth
* `Expr.parse`: reads a whole text
-/

namespace Stencil

/-- Reads an expression from the front of a list of tokens and returns the tokens behind. -/
abbrev Parser := List Token → Except ExprError (Expr × List Token)

namespace Parser

/-- The operators of a level. -/
def isIn (level : List BinaryOp) : Token → Option BinaryOp
  | .op op => if level.contains op then some op else none
  | _ => none

/-- Joins further operands to the expression on the left, as long as an operator of the
level follows. Each of them takes a token, so the count of tokens is `fuel` enough. -/
def joinMore (level : List BinaryOp) (next : Parser) :
    (fuel : Nat) → Expr → List Token → Except ExprError (Expr × List Token)
  | 0, left, tokens => .ok (left, tokens)
  | fuel + 1, left, tokens =>
    match tokens with
    | [] => .ok (left, [])
    | token :: rest =>
      match isIn level token with
      | none => .ok (left, token :: rest)
      | some op =>
        match next rest with
        | .error e => .error e
        | .ok (right, rest) => joinMore level next fuel (.binary op left right) rest

/-- One level of binary operators, which join to the left, over operands of the next. -/
def chain (level : List BinaryOp) (next : Parser) : Parser := fun tokens =>
  match next tokens with
  | .error e => .error e
  | .ok (left, rest) => joinMore level next rest.length left rest

/-- The levels of binary operators, the most loosely binding first. -/
def levels : List (List BinaryOp) :=
  [[.or], [.and], [.eq, .notEq], [.lt, .ltEq, .gt, .gtEq], [.add, .sub], [.mul, .div, .rem]]

/-- All levels of binary operators over one parser of operands. -/
def binary (operand : Parser) : Parser :=
  levels.foldr chain operand

/-- The deepest nesting of parentheses and signs. -/
def maxNesting : Nat := 64

/-- An expression with a closing parenthesis behind it. -/
def closed (inner : Parser) : Parser := fun tokens =>
  match inner tokens with
  | .error e => .error e
  | .ok (e, .closeParen :: rest) => .ok (e, rest)
  | .ok (_, token :: _) => .error (.unexpectedToken token.written)
  | .ok (_, []) => .error .unexpectedEnd

/-- The expression that an operator makes of its operand. -/
def signed (op : UnaryOp) (operand : Parser) : Parser := fun tokens =>
  match operand tokens with
  | .error e => .error e
  | .ok (e, rest) => .ok (.unary op e, rest)

/-- An operand: a sign in front of another operand, an expression in parentheses, a literal
or a path. `depth` bounds how many signs and parentheses may still be nested. -/
def operand : (depth : Nat) → Parser
  | _, [] => .error .unexpectedEnd
  | depth, .not :: rest =>
    match depth with
    | 0 => .error (.tooDeep maxNesting)
    | depth + 1 => signed .not (operand depth) rest
  | depth, .op op :: rest =>
    if op = .sub then
      match depth with
      | 0 => .error (.tooDeep maxNesting)
      | depth + 1 => signed .neg (operand depth) rest
    else .error (.unexpectedToken op.sign)
  | depth, .openParen :: rest =>
    match depth with
    | 0 => .error (.tooDeep maxNesting)
    | depth + 1 => closed (binary (operand depth)) rest
  | _, .closeParen :: _ => .error (.unexpectedToken Token.closeParen.written)
  | _, .number value :: rest => .ok (.literal (.number value), rest)
  | _, .text _ content :: rest => .ok (.literal (.text content), rest)
  | _, .trueWord :: rest => .ok (.literal (.bool true), rest)
  | _, .falseWord :: rest => .ok (.literal (.bool false), rest)
  | _, .nullWord :: rest => .ok (.literal .null, rest)
  | _, .name path :: rest => .ok (.var path, rest)

end Parser

namespace Expr

/-- The most tokens an expression may have. -/
def maxTokens : Nat := 512

/-- Reads all of a list of tokens. -/
def ofTokens (tokens : List Token) : Except ExprError Expr :=
  if tokens.isEmpty then .error .empty
  else if maxTokens < tokens.length then .error (.tooLong maxTokens)
  else
    match Parser.binary (Parser.operand Parser.maxNesting) tokens with
    | .error e => .error e
    | .ok (e, []) => .ok e
    | .ok (_, token :: _) => .error (.unexpectedToken token.written)

/-- Reads an expression. -/
def parse (source : Text) : Except ExprError Expr :=
  match tokenize source with
  | .error e => .error e
  | .ok tokens => ofTokens tokens

end Expr

end Stencil
