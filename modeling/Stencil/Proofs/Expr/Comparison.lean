import Stencil.Proofs.Expr.LeadingZero

/-!
# Comparison from either side

Two values can be compared in either order of the operands. Equality does not tell the operands
apart, and an order is turned around with them. Containers have no order and neither has
not-a-number, so there a comparison is an error from both sides.

## Main definitions

* `BinaryOp.mirrored op`: the operator that compares from the other side
* `BinaryOp.comparisons`, `BinaryOp.orderings`: the operators that compare

## Main results

* `Value.same_comm`, `Value.looselyEqual_comm`: equality is symmetric
* `Value.compare?_swap`: swapping the operands swaps the order
* `BinaryOp.apply_mirrored`: a comparison from the other side
* `Expr.comparisons_agree`: the comparisons of the values of two expressions
-/

namespace Stencil

/-! ## Texts -/

/-- Swapping two texts swaps their order. -/
theorem Text.order_swap (s t : Text) : order t s = (order s t).swap := by
  induction s generalizing t with
  | nil => cases t <;> rfl
  | cons c s ih =>
    cases t with
    | nil => rfl
    | cons d t =>
      have first : compare d.val c.val = (compare c.val d.val).swap := Std.OrientedCmp.eq_swap
      rw [order, order, ih t, first, Ordering.swap_then]

/-! ## Values -/

namespace Value

mutual

/-- **Structural equality is symmetric.** -/
theorem same_comm : (a b : Value) → same a b = same b a
  | .null, b | .bool _, b | .text _, b => by
    cases b <;> simp [same, Bool.beq_comm]
  | .number x, b => by
    cases b <;> simp [same, Number.sameValue_comm]
  | .list as, b => by
    cases b <;> simp [same]
    exact sameItems_comm as _
  | .object s as, b => by
    cases b <;> simp [same]
    rw [sameFields_comm as, Bool.beq_comm]

theorem sameItems_comm : (as bs : List Value) → sameItems as bs = sameItems bs as
  | [], bs => by cases bs <;> simp [sameItems]
  | a :: as, [] => by simp [sameItems]
  | a :: as, b :: bs => by rw [sameItems, sameItems, same_comm a b, sameItems_comm as bs]

theorem sameFields_comm : (as bs : List (Text × Value)) → sameFields as bs = sameFields bs as
  | [], bs => by cases bs <;> simp [sameFields]
  | a :: as, [] => by simp [sameFields]
  | (name, a) :: as, (other, b) :: bs => by
    rw [sameFields, sameFields, same_comm a b, sameFields_comm as bs, Bool.beq_comm]

end

/-- **Equality across kinds is symmetric.** -/
theorem looselyEqual_comm (a b : Value) : looselyEqual a b = looselyEqual b a := by
  cases a with
  | null => cases b <;> simp [looselyEqual]
  | bool x =>
    cases b with
    | bool y => cases x <;> cases y <;> rfl
    | _ => simp [looselyEqual]
  | number x =>
    cases b with
    | number y => exact Number.withinSteps_comm equalitySteps x y
    | list | object => exact same_comm _ _
    | _ => simp [looselyEqual]
  | text s =>
    cases b with
    | text t => exact Bool.beq_comm
    | list | object => exact same_comm _ _
    | _ => simp [looselyEqual]
  | list | object =>
    cases b with
    | null | bool => simp [looselyEqual]
    | _ => exact same_comm _ _

theorem numbers?_swap (a b : Value) : numbers? b a = (numbers? a b).map Prod.swap := by
  unfold numbers?
  cases a.asNumber? <;> cases b.asNumber? <;> rfl

/-- Values that are not both texts are ordered by their numbers or by their displays. -/
theorem compare?_of_not_texts {a b : Value} (other : ¬ (a.isText = true ∧ b.isText = true)) :
    compare? a b =
      if a.isContainer || b.isContainer then none
      else match numbers? a b with
        | some (x, y) => Number.compare? x y
        | none => some (Text.order a.display b.display) := by
  cases a <;> cases b <;> first | rfl | exact absurd ⟨rfl, rfl⟩ other

/-- **Swapping the operands swaps the order.** -/
theorem compare?_swap (a b : Value) : compare? b a = (compare? a b).map Ordering.swap := by
  by_cases texts : a.isText = true ∧ b.isText = true
  · obtain ⟨isText, isText'⟩ := texts
    cases a <;> cases isText
    cases b <;> cases isText'
    exact congrArg some (Text.order_swap _ _)
  · rw [compare?_of_not_texts texts, compare?_of_not_texts fun h => texts h.symm,
      Bool.or_comm b.isContainer, numbers?_swap a b]
    split
    · rfl
    · cases numbers? a b with
      | none => exact congrArg some (Text.order_swap _ _)
      | some pair => exact Number.compare?_swap pair.1 pair.2

end Value

/-! ## Operators -/

namespace BinaryOp

/-- The operators that order their operands. -/
def orderings : List BinaryOp := [lt, ltEq, gt, gtEq]

/-- The operators that compare their operands. -/
def comparisons : List BinaryOp := eq :: notEq :: orderings

/-- The operator that compares from the other side. -/
def mirrored : BinaryOp → BinaryOp
  | lt => gt
  | ltEq => gtEq
  | gt => lt
  | gtEq => ltEq
  | op => op

variable {op : BinaryOp}

theorem mirrored_mem_orderings (h : op ∈ orderings) : op.mirrored ∈ orderings := by
  simp only [orderings, List.mem_cons, List.not_mem_nil, or_false] at h
  rcases h with rfl | rfl | rfl | rfl <;> decide

theorem admits_mirrored (h : op ∈ orderings) (order : Ordering) :
    op.mirrored.admits order.swap = op.admits order := by
  simp only [orderings, List.mem_cons, List.not_mem_nil, or_false] at h
  rcases h with rfl | rfl | rfl | rfl <;> cases order <;> rfl

/-- **A comparison from the other side** gives the same result, and an error where there is no
order. -/
theorem apply_mirrored (h : op ∈ comparisons) (a b : Value) (result : Value) :
    op.mirrored.apply b a = .ok result ↔ op.apply a b = .ok result := by
  rcases List.mem_cons.mp h with rfl | h
  · simp only [mirrored, apply, Value.looselyEqual_comm b a]
  rcases List.mem_cons.mp h with rfl | h
  · simp only [mirrored, apply, Value.looselyEqual_comm b a]
  · rw [apply_of_mem_orderings h, apply_of_mem_orderings (mirrored_mem_orderings h), ordering,
      ordering, Value.compare?_swap a b]
    cases Value.compare? a b with
    | none =>
      constructor
      · intro found
        cases found
      · intro found
        cases found
    | some order => simp only [Option.map_some, admits_mirrored h]

/-- The ordering operators are errors together, where the operands have no order. -/
theorem exists_apply_eq (h : op ∈ orderings) (a b : Value) :
    (Value.compare? a b = none ∧ op.apply a b = .error (op.invalid a b)) ∨
      ∃ order, Value.compare? a b = some order ∧ op.apply a b = .ok (.bool (op.admits order)) := by
  rw [apply_of_mem_orderings h, ordering]
  cases Value.compare? a b with
  | none => exact .inl ⟨rfl, rfl⟩
  | some order => exact .inr ⟨order, rfl, rfl⟩

theorem strict_of_mem_comparisons (h : op ∈ comparisons) : op ≠ and ∧ op ≠ or := by
  constructor <;> rintro rfl <;> contradiction

end BinaryOp

/-! ## Expressions -/

namespace Expr

open BinaryOp (orderings comparisons)

/-- **Comparisons agree from both sides.** Equality and inequality of two values never fail, the one
is the negation of the other, and neither tells the operands apart. An ordering operator gives a
result exactly if the mirrored one does with the operands swapped, and then the same result. Where
some ordering operator gives a result, exactly one of "less than" and "at least" is true. -/
theorem comparisons_agree {lookup : Lookup} {left right : Expr} {a b : Value}
    (first : left.eval lookup = .ok a) (second : right.eval lookup = .ok b) :
    (∃ equal, (binary .eq left right).eval lookup = .ok (.bool equal) ∧
      (binary .eq right left).eval lookup = .ok (.bool equal) ∧
      (binary .notEq left right).eval lookup = .ok (.bool !equal) ∧
      (binary .notEq right left).eval lookup = .ok (.bool !equal)) ∧
    (∀ op ∈ orderings, ∀ result,
      (binary op.mirrored right left).eval lookup = .ok result ↔
        (binary op left right).eval lookup = .ok result) ∧
    (∀ op ∈ orderings, ∀ result, (binary op left right).eval lookup = .ok result →
      ∃ less, (binary .lt left right).eval lookup = .ok (.bool less) ∧
        (binary .gtEq left right).eval lookup = .ok (.bool !less)) := by
  have forward {op : BinaryOp} (h : op ∈ comparisons) :=
    eval_binary (BinaryOp.strict_of_mem_comparisons h) first second
  have backward {op : BinaryOp} (h : op ∈ comparisons) :=
    eval_binary (BinaryOp.strict_of_mem_comparisons h) second first
  have compares {op : BinaryOp} (h : op ∈ orderings) : op ∈ comparisons :=
    List.mem_cons_of_mem _ (List.mem_cons_of_mem _ h)
  refine ⟨⟨a.looselyEqual b, ?_, ?_, ?_, ?_⟩, ?_, ?_⟩
  · rw [forward (by decide), BinaryOp.apply]
  · rw [backward (by decide), BinaryOp.apply, Value.looselyEqual_comm]
  · rw [forward (by decide), BinaryOp.apply]
  · rw [backward (by decide), BinaryOp.apply, Value.looselyEqual_comm]
  · intro op isOrdering result
    rw [forward (compares isOrdering),
      backward (compares (BinaryOp.mirrored_mem_orderings isOrdering))]
    exact BinaryOp.apply_mirrored (compares isOrdering) a b result
  · intro op isOrdering result given
    rw [forward (compares isOrdering)] at given
    rcases BinaryOp.exists_apply_eq isOrdering a b with ⟨-, failed⟩ | ⟨order, ordered, -⟩
    · rw [failed] at given
      cases given
    · refine ⟨order == .lt, ?_, ?_⟩
      · rw [forward (by decide), BinaryOp.apply, BinaryOp.ordering, ordered]
      · rw [forward (by decide), BinaryOp.apply, BinaryOp.ordering, ordered]
        cases order <;> rfl

/-- A text that spells no number is ordered against a truth value by its display, from either side,
and a list that holds not-a-number is not equal to itself. -/
theorem comparisons_agree_of_kinds :
    let lookup : Lookup := Scope.lookup [("xs".toList, .list [.null, .number (Number.nan false)])]
    let word : Expr := .literal (.text "b".toList)
    let truth : Expr := .literal (.bool true)
    let list : Expr := .var "xs".toList
    word.eval lookup = .ok (.text "b".toList) ∧ truth.eval lookup = .ok (.bool true) ∧
      (binary .gt word truth).eval lookup = .ok (.bool true) ∧
      (binary .lt truth word).eval lookup = .ok (.bool true) ∧
      list.eval lookup = .ok (.list [.null, .number (Number.nan false)]) ∧
      (binary .eq list list).eval lookup = .ok (.bool false) ∧
      (binary .notEq list list).eval lookup = .ok (.bool true) := by
  intro lookup word truth list
  have first : word.eval lookup = .ok (.text "b".toList) := rfl
  have second : truth.eval lookup = .ok (.bool true) := rfl
  have container : list.eval lookup = .ok (.list [.null, .number (Number.nan false)]) := rfl
  have greater : (binary .gt word truth).eval lookup = .ok (.bool true) := rfl
  obtain ⟨-, mirrored, -⟩ := comparisons_agree first second
  obtain ⟨⟨equal, same, -, opposite, -⟩, -, -⟩ := comparisons_agree container container
  have differs : (binary .eq list list).eval lookup = .ok (.bool false) := rfl
  obtain rfl : equal = false := by
    rw [same] at differs
    exact Value.bool.inj (Except.ok.inj differs)
  exact ⟨first, second, greater, (mirrored .gt (by decide) _).mpr greater, container, differs,
    opposite⟩

end Expr

end Stencil
