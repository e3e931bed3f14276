import Stencil.Expr.Eval
import Stencil.Proofs.Number.LeadingZero

/-!
# Codes in expressions

A name that is bound to a text with a leading zero stands for this text and never for a number:
arithmetic rejects it, a sum joins it to the other operand, and comparisons go by texts.

## Main definitions

* `BinaryOp.admits`: the orders for which an ordering operator holds
* `Expr.StaysText lookup path s`: the path stands for the text `s` and for no number

## Main results

* `Value.numbers?_text_left`, `Value.numbers?_text_right`: no operator finds a number in it
* `Expr.staysText_of_hasLeadingZero`: a text with a leading zero stays a text
-/

namespace Stencil

/-! ## The value -/

namespace Value

section LeadingZero

variable {s : Text} (zero : s.hasLeadingZero = true)

include zero

theorem coerceNumeric_text : (Value.text s).coerceNumeric = .text s := by
  rw [coerceNumeric, Number.literal?_of_hasLeadingZero zero]

theorem asNumber?_text : (Value.text s).asNumber? = none :=
  Number.literal?_of_hasLeadingZero zero

theorem numbers?_text_left (other : Value) : numbers? (.text s) other = none := by
  rw [numbers?, asNumber?_text zero]

theorem numbers?_text_right (other : Value) : numbers? other (.text s) = none := by
  rw [numbers?, asNumber?_text zero]
  cases other.asNumber? <;> rfl

theorem looselyEqual_text_number (n : Number) :
    looselyEqual (.text s) (.number n) = false ∧ looselyEqual (.number n) (.text s) = false := by
  have different : (n.display == s) = false :=
    beq_false_of_ne (Number.display_ne_of_hasLeadingZero zero n)
  exact ⟨different, different⟩

/-- **The order against a scalar** is that of the texts. -/
theorem compare?_text {other : Value} (scalar : other.isContainer = false) :
    compare? (.text s) other = some (Text.order s other.display) ∧
      compare? other (.text s) = some (Text.order other.display s) := by
  have left := numbers?_text_left zero other
  have right := numbers?_text_right zero other
  cases other with
  | text t => exact ⟨rfl, rfl⟩
  | list | object => contradiction
  | null | bool | number =>
    simp only [compare?, left, right, isContainer, Bool.or_self, Bool.false_eq_true, if_false]
    exact ⟨rfl, rfl⟩

end LeadingZero

end Value

/-! ## The operators -/

namespace BinaryOp

/-- The orders of its operands for which an ordering operator holds. -/
def admits : BinaryOp → Ordering → Bool
  | .lt, order => order == .lt
  | .ltEq, order => order != .gt
  | .gt, order => order == .gt
  | .gtEq, order => order != .lt
  | _, _ => false

theorem apply_of_mem_orderings {op : BinaryOp} (h : op ∈ [lt, ltEq, gt, gtEq])
    (left right : Value) : op.apply left right = ordering op op.admits left right := by
  simp only [List.mem_cons, List.not_mem_nil, or_false] at h
  rcases h with rfl | rfl | rfl | rfl <;> rfl

theorem apply_eq_error {op : BinaryOp} (h : op ∈ [sub, mul, div, rem]) {left right : Value}
    (none : Value.numbers? left right = none) :
    op.apply left right = .error (.invalidOperands op left.display right.display) := by
  simp only [List.mem_cons, List.not_mem_nil, or_false] at h
  rcases h with rfl | rfl | rfl | rfl <;> simp only [apply, arithmetic, none] <;> rfl

end BinaryOp

/-! ## The expressions -/

namespace Expr

/-- An operator that looks at both its operands is applied to their values. -/
theorem eval_binary {lookup : Lookup} {op : BinaryOp} {left right : Expr} {a b : Value}
    (strict : op ≠ .and ∧ op ≠ .or) (first : left.eval lookup = .ok a)
    (second : right.eval lookup = .ok b) :
    (binary op left right).eval lookup = op.apply a b := by
  simp only [eval, first, second, strict.1, strict.2, false_and, if_false]

/-- A path stands for a text, and an expression sees nothing else in it. -/
structure StaysText (lookup : Lookup) (path s : Text) : Prop where
  /-- Its value is the text itself. -/
  value : (var path).eval lookup = .ok (.text s)
  /-- The text has no negative. -/
  negation : (unary .neg (var path)).eval lookup = .error (.invalidNegation s)
  /-- Arithmetic with it has no meaning, whatever the other operand is. -/
  arithmetic {op : BinaryOp} {other : Expr} {v : Value} :
    op ∈ [BinaryOp.sub, .mul, .div, .rem] → other.eval lookup = .ok v →
      (binary op (var path) other).eval lookup = .error (.invalidOperands op s v.display) ∧
      (binary op other (var path)).eval lookup = .error (.invalidOperands op v.display s)
  /-- A sum with it joins two texts. -/
  sum {other : Expr} {v : Value} : other.eval lookup = .ok v →
    (binary .add (var path) other).eval lookup = .ok (.text (s ++ v.display)) ∧
    (binary .add other (var path)).eval lookup = .ok (.text (v.display ++ s))
  /-- It equals no number. -/
  equalsNumber {other : Expr} {n : Number} : other.eval lookup = .ok (.number n) →
    (binary .eq (var path) other).eval lookup = .ok (.bool false) ∧
    (binary .eq other (var path)).eval lookup = .ok (.bool false)
  /-- Among the texts, it equals itself alone. -/
  equalsText {other : Expr} {t : Text} : other.eval lookup = .ok (.text t) →
    (binary .eq (var path) other).eval lookup = .ok (.bool (decide (s = t))) ∧
    (binary .eq other (var path)).eval lookup = .ok (.bool (decide (s = t)))
  /-- Against a scalar it is ordered as a text. -/
  order {op : BinaryOp} {other : Expr} {v : Value} :
    op ∈ [BinaryOp.lt, .ltEq, .gt, .gtEq] → other.eval lookup = .ok v → v.isContainer = false →
      (binary op (var path) other).eval lookup =
        .ok (.bool (op.admits (Text.order s v.display))) ∧
      (binary op other (var path)).eval lookup =
        .ok (.bool (op.admits (Text.order v.display s)))

/-- **A text with a leading zero stays a text** in every expression. -/
theorem staysText_of_hasLeadingZero {lookup : Lookup} {path s : Text}
    (zero : s.hasLeadingZero = true) (bound : Path.resolve? lookup path = some (.text s)) :
    StaysText lookup path s := by
  have value : (var path).eval lookup = .ok (.text s) := by
    simp only [eval, bound, Value.coerceNumeric_text zero]
  refine ⟨value, ?_, ?_, ?_, ?_, ?_, ?_⟩
  · simp only [eval, bound, Value.coerceNumeric_text zero, UnaryOp.apply,
      Value.asNumber?_text zero]
    rfl
  · intro op other v isArithmetic operand
    have strict : op ≠ .and ∧ op ≠ .or := by
      constructor <;> rintro rfl <;> contradiction
    rw [eval_binary strict value operand, eval_binary strict operand value]
    exact ⟨BinaryOp.apply_eq_error isArithmetic (Value.numbers?_text_left zero v),
      BinaryOp.apply_eq_error isArithmetic (Value.numbers?_text_right zero v)⟩
  · intro other v operand
    rw [eval_binary (by decide) value operand, eval_binary (by decide) operand value]
    simp only [BinaryOp.apply, Value.isText, Bool.true_or, Bool.or_true, if_true]
    exact ⟨rfl, rfl⟩
  · intro other n operand
    obtain ⟨left, right⟩ := Value.looselyEqual_text_number zero n
    rw [eval_binary (by decide) value operand, eval_binary (by decide) operand value]
    simp only [BinaryOp.apply, left, right, and_self]
  · intro other t operand
    rw [eval_binary (by decide) value operand, eval_binary (by decide) operand value]
    have swapped : decide (t = s) = decide (s = t) := decide_eq_decide.mpr eq_comm
    simp only [BinaryOp.apply, Value.looselyEqual, Bool.beq_eq_decide_eq, swapped, and_self]
  · intro op other v isOrdering operand scalar
    obtain ⟨left, right⟩ := Value.compare?_text zero scalar
    have strict : op ≠ .and ∧ op ≠ .or := by
      constructor <;> rintro rfl <;> contradiction
    rw [eval_binary strict value operand, eval_binary strict operand value,
      BinaryOp.apply_of_mem_orderings isOrdering, BinaryOp.apply_of_mem_orderings isOrdering]
    simp only [BinaryOp.ordering, left, right, and_self]

/-- A code that is compared with the number of its digits. -/
theorem staysText_of_hasLeadingZero_code :
    let lookup : Lookup := Scope.lookup [("zip".toList, .text "-0123".toList)]
    let number : Expr := .literal (.number (Number.ofInt (-123)))
    Text.hasLeadingZero "-0123".toList = true ∧
      Path.resolve? lookup "zip".toList = some (.text "-0123".toList) ∧
      (binary .eq (var "zip".toList) number).eval lookup = .ok (.bool false) := by
  intro lookup number
  have zero : Text.hasLeadingZero "-0123".toList = true := rfl
  have bound : Path.resolve? lookup "zip".toList = some (.text "-0123".toList) := rfl
  have stays := staysText_of_hasLeadingZero zero bound
  have operand : number.eval lookup = .ok (.number (Number.ofInt (-123))) := rfl
  exact ⟨zero, bound, (stays.equalsNumber operand).1⟩

end Expr

end Stencil
