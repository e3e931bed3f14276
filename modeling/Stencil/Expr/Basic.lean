import Stencil.Value.Display

/-!
# Expressions

The expressions of conditions and assignments, and what can be wrong with them.

## Main definitions

* `UnaryOp`, `BinaryOp`: the operators
* `Expr`: literals, names, and operators applied to expressions
* `ExprError`: the causes of a failure to read or to evaluate an expression
* `ExprError.message`: the wording of a cause
-/

namespace Stencil

/-- The operators with one operand. -/
inductive UnaryOp where
  | neg
  | not
  deriving DecidableEq, Repr

/-- The operators with two operands. -/
inductive BinaryOp where
  | add
  | sub
  | mul
  | div
  | rem
  | eq
  | notEq
  | lt
  | ltEq
  | gt
  | gtEq
  | and
  | or
  deriving DecidableEq, Repr

/-- The sign of an operator. -/
def BinaryOp.sign : BinaryOp → Text
  | .add => "+"
  | .sub => "-"
  | .mul => "*"
  | .div => "/"
  | .rem => "%"
  | .eq => "=="
  | .notEq => "!="
  | .lt => "<"
  | .ltEq => "<="
  | .gt => ">"
  | .gtEq => ">="
  | .and => "&&"
  | .or => "||"

/-- An expression. Parentheses leave no trace. -/
inductive Expr where
  /-- A value written out. -/
  | literal (value : Value)
  /-- A name or a dotted path. -/
  | var (path : Text)
  /-- An operator applied to one operand. -/
  | unary (op : UnaryOp) (operand : Expr)
  /-- An operator applied to two operands. -/
  | binary (op : BinaryOp) (left right : Expr)

/-- Why an expression cannot be read or has no value. -/
inductive ExprError where
  /-- Characters that start no token, at a byte offset. -/
  | unexpectedCharacter (text : Text) (offset : Nat)
  /-- A quoted text with a wrong escape, at a byte offset. -/
  | invalidString (offset : Nat)
  /-- The expression breaks off. -/
  | unexpectedEnd
  /-- A token that cannot stand where it stands. -/
  | unexpectedToken (token : Text)
  /-- There is no token at all. -/
  | empty
  /-- A name or path without a value. -/
  | undefinedVariable (path : Text)
  /-- A quotient or a remainder by zero. -/
  | divisionByZero
  /-- Operands for which an operator has no meaning. -/
  | invalidOperands (op : BinaryOp) (left right : Text)
  /-- A value that has no negative. -/
  | invalidNegation (operand : Text)
  /-- More nested parentheses and signs than allowed. -/
  | tooDeep (limit : Nat)
  /-- More tokens than allowed. -/
  | tooLong (limit : Nat)
  deriving DecidableEq, Repr

namespace ExprError

/-- The wording of a cause. -/
def message : ExprError → Text
  | .unexpectedCharacter text offset =>
    "unexpected ".toList ++ text.ticked ++ " at offset ".toList ++ Text.ofNat offset
  | .invalidString offset => "invalid string literal at offset ".toList ++ Text.ofNat offset
  | .unexpectedEnd => "unexpected end of expression"
  | .unexpectedToken token => "unexpected token ".toList ++ token.ticked
  | .empty => "empty expression"
  | .undefinedVariable path => "undefined variable ".toList ++ path.ticked
  | .divisionByZero => "division by zero"
  | .invalidOperands op left right =>
    "cannot apply ".toList ++ op.sign.ticked ++ " to ".toList ++ left.ticked ++
      " and ".toList ++ right.ticked
  | .invalidNegation operand => "cannot negate ".toList ++ operand.ticked
  | .tooDeep limit =>
    "expression nests deeper than ".toList ++ Text.ofNat limit ++ " levels".toList
  | .tooLong limit => "expression has more than ".toList ++ Text.ofNat limit ++ " tokens".toList

end ExprError

end Stencil
