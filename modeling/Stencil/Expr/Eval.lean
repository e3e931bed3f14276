import Stencil.Value.Path
import Stencil.Expr.Parse

/-!
# Values of expressions

An expression is evaluated against a lookup of names. Texts that spell a number take part
in arithmetic as numbers, the logical operators look at their second operand only where it
matters, and comparison is by value across kinds.

## Main definitions

* `Value.looselyEqual`, `Value.compare?`: equality and order across kinds
* `BinaryOp.apply`: the operators on values
* `Expr.eval`: the value of an expression
* `Condition.holds`: whether a condition is true
* `Assignment.value`: the value that an assignment gives
-/

namespace Stencil

namespace Value

/-- A text that spells a number counts as this number. -/
def coerceNumeric : Value → Value
  | .text content =>
    match Number.literal? content with
    | some n => .number n
    | none => .text content
  | value => value

/-- The numbers that two values stand for. -/
def numbers? (left right : Value) : Option (Number × Number) :=
  match left.asNumber?, right.asNumber? with
  | some a, some b => some (a, b)
  | _, _ => none

/-- How many bit patterns apart two numbers may be and still count as equal. -/
def equalitySteps : Nat := 4

/-- Equality across kinds. Numbers may differ by a few bit patterns, a number equals the
text that displays it, null equals what is empty, and a truth value equals what is as true
as it is. -/
def looselyEqual : Value → Value → Bool
  | .number a, .number b => a.withinSteps equalitySteps b
  | .text a, .text b => a == b
  | .number n, .text s | .text s, .number n => n.display == s
  | .null, other | other, .null => other.isEmpty
  | .bool b, other | other, .bool b => b == other.isTruthy
  | left, right => left.same right

/-- Order across kinds. Texts are ordered as texts, values that stand for numbers as
numbers, other scalars by their display; containers and not-a-number have no order. -/
def compare? : Value → Value → Option Ordering
  | .text a, .text b => some (Text.order a b)
  | left, right =>
    if left.isContainer || right.isContainer then none
    else
      match numbers? left right with
      | some (a, b) => Number.compare? a b
      | none => some (Text.order left.display right.display)

end Value

namespace BinaryOp

/-- The error for operands without meaning. -/
def invalid (op : BinaryOp) (left right : Value) : ExprError :=
  .invalidOperands op left.display right.display

/-- An arithmetic operator on the numbers that the operands stand for. -/
def arithmetic (op : BinaryOp) (f : Number → Number → Except ExprError Number)
    (left right : Value) : Except ExprError Value :=
  match Value.numbers? left right with
  | some (a, b) => (f a b).map Value.number
  | none => .error (op.invalid left right)

/-- An ordering operator, given by the orders for which it holds. -/
def ordering (op : BinaryOp) (holds : Ordering → Bool) (left right : Value) :
    Except ExprError Value :=
  match Value.compare? left right with
  | some order => .ok (.bool (holds order))
  | none => .error (op.invalid left right)

/-- A quotient or remainder; its divisor must not be zero. -/
def divided (f : Number → Number → Number) (a b : Number) : Except ExprError Number :=
  if b.isZero then .error .divisionByZero else .ok (f a b)

/-- An operator on the values of its operands. A sum with a text joins the displays. The
logical operators are those of both truth values. -/
def apply (op : BinaryOp) (left right : Value) : Except ExprError Value :=
  match op with
  | .add =>
    if left.isText || right.isText then .ok (.text (left.display ++ right.display))
    else arithmetic .add (fun a b => .ok (a.add b)) left right
  | .sub => arithmetic .sub (fun a b => .ok (a.sub b)) left right
  | .mul => arithmetic .mul (fun a b => .ok (a.mul b)) left right
  | .div => arithmetic .div (divided Number.div) left right
  | .rem => arithmetic .rem (divided Number.rem) left right
  | .eq => .ok (.bool (left.looselyEqual right))
  | .notEq => .ok (.bool (!left.looselyEqual right))
  | .lt => ordering .lt (· == .lt) left right
  | .ltEq => ordering .ltEq (· != .gt) left right
  | .gt => ordering .gt (· == .gt) left right
  | .gtEq => ordering .gtEq (· != .lt) left right
  | .and => .ok (.bool (left.isTruthy && right.isTruthy))
  | .or => .ok (.bool (left.isTruthy || right.isTruthy))

end BinaryOp

/-- An operator on the value of its operand. -/
def UnaryOp.apply (op : UnaryOp) (operand : Value) : Except ExprError Value :=
  match op with
  | .not => .ok (.bool (!operand.isTruthy))
  | .neg =>
    match operand.asNumber? with
    | some n => .ok (.number n.neg)
    | none => .error (.invalidNegation operand.display)

namespace Expr

/-- The value of an expression. Operands are evaluated from left to right, and the right
operand of a logical operator only if the left one does not decide. -/
def eval (lookup : Lookup) : Expr → Except ExprError Value
  | .literal value => .ok value
  | .var path =>
    match Path.resolve? lookup path with
    | some value => .ok value.coerceNumeric
    | none => .error (.undefinedVariable path)
  | .unary op operand =>
    match eval lookup operand with
    | .error e => .error e
    | .ok value => op.apply value
  | .binary op left right =>
    match eval lookup left with
    | .error e => .error e
    | .ok a =>
      if op = .and ∧ a.isTruthy = false then .ok (.bool false)
      else if op = .or ∧ a.isTruthy = true then .ok (.bool true)
      else
        match eval lookup right with
        | .error e => .error e
        | .ok b => op.apply a b

end Expr

/-- The value that an assignment gives. -/
def Assignment.value (lookup : Lookup) (source : Text) : Except ExprError Value :=
  match Expr.parse (Text.trim source) with
  | .error e => .error e
  | .ok e => e.eval lookup

namespace Condition

/-- A word that counts as false while it has no value: shorter than 30 bytes, made of name
characters, not starting with a digit from `0` to `9`, and no keyword for a value. -/
def isLoneWord (source : Text) : Bool :=
  decide (Text.byteLength source < 30) && source != [] && source.all Path.isNameCharacter &&
    ["true", "false", "null"].all (fun word => word.toList != Text.lower source) &&
    !(source.head?.any Char.isDigit)

/-- Whether a condition is true. A source that is a known name is as true as its value, and
an unknown lone word is false; all else is read and evaluated. -/
def holds (lookup : Lookup) (source : Text) : Except ExprError Bool :=
  let source := Text.trim source
  match lookup.get? source with
  | some value => .ok value.isTruthy
  | none =>
    if isLoneWord source then .ok false
    else
      match Expr.parse source with
      | .error e => .error e
      | .ok e => (e.eval lookup).map Value.isTruthy

end Condition

end Stencil
