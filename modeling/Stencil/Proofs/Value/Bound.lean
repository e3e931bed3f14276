import Stencil.Expr.Eval
import Stencil.Proofs.Value.Name
import Stencil.Proofs.Value.Order

/-!
# Binding a name that has no value

A variable is set in the scope of the variables. Where nothing was bound to its name in any scope,
and its new value is no container, this is seen by an exact search for the name and by nothing
else: an object is found under the same names as before, a path starts at the same containers, and
an expression that had a value keeps it.

## Main definitions

* `Lookup.Adds before behind name value`: the lookup `behind` binds a name without a value in
  `before` to a scalar, and is the same elsewhere

## Main results

* `Env.get?_lookup`, `Env.object?_lookup`: the scopes in turn
* `Env.adds_insert`: a variable is set under a name without a value
* `Lookup.Adds.resolve?_eq`: what a path names
* `Lookup.Adds.eval_of_ok`: an expression that had a value keeps it
-/

namespace Stencil

/-! ## The scopes in turn -/

/-- A search through the scopes takes the first that finds something. -/
theorem Env.findSome?_layers (env : Env) (search : Scope → Option Value) :
    env.layers.findSome? search =
      ((search env.locals).or (search env.globals)).or (search env.values) := by
  simp only [layers, List.findSome?_cons, List.findSome?_nil]
  cases search env.locals with
  | some value => rfl
  | none =>
    cases search env.globals with
    | some value => rfl
    | none => cases search env.values <;> rfl

/-- **The innermost scope that binds a name** decides. -/
theorem Env.get?_lookup (env : Env) (name : Text) :
    env.lookup.get? name =
      ((env.locals.get? name).or (env.globals.get? name)).or (env.values.get? name) :=
  env.findSome?_layers fun scope => scope.get? name

theorem Env.object?_lookup (env : Env) (name : Text) :
    env.lookup.object? name =
      ((env.locals.object? name).or (env.globals.object? name)).or (env.values.object? name) :=
  env.findSome?_layers fun scope => scope.object? name

/-- A value that is no object is not found by a search for objects. -/
theorem Scope.object?_insert {scope : Scope} {name : Text} {value : Value}
    (free : scope.get? name = none) (scalar : value.isObject = false) (key : Text) :
    Scope.object? (scope.insert name value) key = scope.object? key := by
  induction scope with
  | nil => simp [Bindings.insert, object?_cons, scalar]
  | cons first rest ih =>
    obtain ⟨other, old⟩ := first
    rw [Bindings.get?_cons] at free
    split at free
    · cases free
    · next different => rw [Bindings.insert, if_neg different, object?_cons, object?_cons, ih free]

/-! ## One more name -/

/-- The lookup `behind` binds a name without a value in `before` to a value that is no container,
and finds the same as `before` elsewhere. -/
structure Lookup.Adds (before behind : Lookup) (name : Text) (value : Value) : Prop where
  free : before.get? name = none
  scalar : value.isContainer = false
  get?_eq : ∀ key, behind.get? key = if key = name then some value else before.get? key
  object?_eq : ∀ key, behind.object? key = before.object? key

/-- **A variable is set** under a name without a value. -/
theorem Env.adds_insert {locals globals values : Scope} {name : Text} {value : Value}
    (free : (Env.lookup ⟨locals, globals, values⟩).get? name = none)
    (scalar : value.isContainer = false) :
    Lookup.Adds (Env.lookup ⟨locals, globals, values⟩)
      (Env.lookup ⟨locals, globals.insert name value, values⟩) name value := by
  have noObject : value.isObject = false := by
    cases value with
    | object typeName fields => cases scalar
    | _ => rfl
  have unbound := free
  rw [Env.get?_lookup, Option.or_eq_none_iff, Option.or_eq_none_iff] at unbound
  obtain ⟨⟨inLocals, inGlobals⟩, inValues⟩ := unbound
  refine ⟨free, scalar, fun key => ?_, fun key => ?_⟩
  · rw [Env.get?_lookup, Env.get?_lookup, Bindings.get?_insert]
    by_cases same : name = key
    · subst same
      rw [if_pos rfl, if_pos rfl, inLocals, Option.none_or, Option.some_or]
    · rw [if_neg same, if_neg (Ne.symm same)]
  · rw [Env.object?_lookup, Env.object?_lookup, Scope.object?_insert inGlobals noObject]

namespace Lookup.Adds

variable {before behind : Lookup} {name : Text} {value : Value}
  (h : Adds before behind name value)
include h

theorem start?_eq (first : Text) : Path.start? behind first = Path.start? before first := by
  rw [Path.start?, Path.start?, h.object?_eq, h.get?_eq]
  by_cases same : first = name
  · rw [if_pos same, Option.filter_some, h.scalar, same, h.free]
    rfl
  · rw [if_neg same]

/-- **What a path names** is the same, except for the name itself. -/
theorem resolve?_eq (path : Text) :
    Path.resolve? behind path = if path = name then some value else Path.resolve? before path := by
  rw [Path.resolve?, Path.resolve?, h.get?_eq]
  by_cases same : path = name
  · rw [if_pos same, if_pos same]
  · rw [if_neg same, if_neg same]
    simp only [h.start?_eq]

/-- **An expression that had a value** keeps it. -/
theorem eval_of_ok (isName : Path.isIdentifier name = true) {e : Expr} {result : Value}
    (ok : e.eval before = .ok result) : e.eval behind = .ok result := by
  -- the name itself had no value, so an expression that has one does not ask for it
  have nothing : Path.resolve? before name = none := by
    rw [Path.resolve?, h.free, Path.segments_of_isIdentifier isName]
  induction e generalizing result with
  | literal value => exact ok
  | var path =>
    have other : path ≠ name := by
      rintro rfl
      simp only [Expr.eval, nothing] at ok
      cases ok
    simp only [Expr.eval, h.resolve?_eq, if_neg other] at ok ⊢
    exact ok
  | unary op operand ih =>
    simp only [Expr.eval] at ok ⊢
    split at ok
    · cases ok
    · next inner evaluated => simpa only [ih evaluated] using ok
  | binary op left right ihLeft ihRight =>
    simp only [Expr.eval] at ok ⊢
    split at ok
    · cases ok
    · next a evaluated =>
      rw [ihLeft evaluated]
      split at ok
      · next decided => simpa only [if_pos decided] using ok
      · next open_and =>
        split at ok
        · next decided => simpa only [if_neg open_and, if_pos decided] using ok
        · next open_or =>
          split at ok
          · cases ok
          · next b evaluated' =>
            simpa only [if_neg open_and, if_neg open_or, ihRight evaluated'] using ok

end Lookup.Adds

end Stencil
