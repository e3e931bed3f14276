import Stencil.Render.Session

/-!
# Scopes in front of scopes

A placeholder sees the bindings of the loops around it in front of the variables that were set, and
these in front of the supplied values. A name stands for what the innermost scope binds it to. A
path starts at a container: if a list or an object is bound to its first part, this container
decides and no scope further out is looked at. A scalar is passed over, and an object that any of
the scopes binds to the same name, in whatever letter case, takes its place.

## Main definitions

* `Env.BindsInnermost env name value`: the innermost scope that binds `name` binds it to `value`

## Main results

* `Env.get?_eq_some_iff`, `Env.get?_eq_none_iff`: a name in the scopes
* `Path.start?_of_get?`: where a path starts
* `Env.resolve?_eq_follow?_iff`: when the innermost scope decides alone what a path names
-/

namespace Stencil

/-! ## Names -/

namespace Env

variable {env : Env} {name : Text} {value : Value}

/-- The innermost scope that binds the name binds it to the value. Scopes further out may bind it
to anything. -/
def BindsInnermost (env : Env) (name : Text) (value : Value) : Prop :=
  ∃ inner scope outer, env.layers = inner ++ scope :: outer ∧
    scope.get? name = some value ∧ ∀ other ∈ inner, other.get? name = none

/-- **A name stands for** what the innermost scope binds it to. -/
theorem get?_eq_some_iff : env.lookup.get? name = some value ↔ env.BindsInnermost name value :=
  List.findSome?_eq_some_iff

theorem get?_eq_none_iff :
    env.lookup.get? name = none ↔ ∀ scope ∈ env.layers, scope.get? name = none :=
  List.findSome?_eq_none_iff

end Env

/-! ## Paths -/

namespace Path

variable {lookup : Lookup} {path name next : Text} {rest : List Text} {value : Value}

/-- A path to which no value is bound as a whole is followed from its first part on. -/
theorem resolve?_of_segments (free : lookup.get? path = none)
    (parts : segments path = name :: next :: rest) :
    resolve? lookup path =
      (start? lookup name).bind fun container => follow? container (next :: rest) := by
  rw [resolve?, free, parts]

/-- **A path starts** at the container that is bound to its first part. In the place of a scalar
comes an object under the same name in any letter case. -/
theorem start?_of_get? (bound : lookup.get? name = some value) :
    start? lookup name = if value.isContainer then some value else lookup.object? name := by
  rw [start?, bound, Option.filter_some]
  split
  · rw [Option.some_or]
  · rw [Option.none_or]

/-- Scalars have no members. -/
theorem follow?_of_scalar (scalar : value.isContainer = false) :
    follow? value (next :: rest) = none := by
  cases value with
  | list items => cases scalar
  | object typeName fields => cases scalar
  | _ => rfl

end Path

/-! ## Shadowing -/

/-- **When the innermost scope decides alone.** Let no scope bind the whole path, and let `value` be
what the innermost scope binds the first part of the path to. If `value` is a container, the path
names the member to which its other parts lead from `value`. A scalar has no members, but the path
need not be without a value: it names what its other parts lead to from the innermost object that
has the name of the first part in any letter case. So the path depends on `value` alone exactly if
`value` is a container or nothing is found from such an object. -/
theorem Env.resolve?_eq_follow?_iff {env : Env} {path name next : Text} {rest : List Text}
    {value : Value} (parts : Path.segments path = name :: next :: rest)
    (free : ∀ scope ∈ env.layers, scope.get? path = none)
    (bound : env.BindsInnermost name value) :
    (value.isContainer = true →
      Path.resolve? env.lookup path = Path.follow? value (next :: rest)) ∧
    (value.isContainer = false → Path.follow? value (next :: rest) = none ∧
      Path.resolve? env.lookup path = (env.layers.findSome? fun scope => scope.object? name).bind
        fun object => Path.follow? object (next :: rest)) ∧
    (Path.resolve? env.lookup path = Path.follow? value (next :: rest) ↔
      value.isContainer = true ∨ ∀ object,
        (env.layers.findSome? fun scope => scope.object? name) = some object →
          Path.follow? object (next :: rest) = none) := by
  have followed := Path.resolve?_of_segments (Env.get?_eq_none_iff.mpr free) parts
  have start := Path.start?_of_get? (Env.get?_eq_some_iff.mpr bound)
  rw [start] at followed
  cases container : value.isContainer with
  | true =>
    rw [container, if_pos rfl, Option.bind_some] at followed
    exact ⟨fun _ => followed, fun scalar => absurd scalar (by decide), by simp [followed]⟩
  | false =>
    rw [container, if_neg Bool.false_ne_true] at followed
    have none : Path.follow? value (next :: rest) = none := Path.follow?_of_scalar container
    refine ⟨fun holds => absurd holds (by decide), fun _ => ⟨none, followed⟩, ?_⟩
    rw [none, followed, Option.bind_eq_none_iff]
    simp only [Bool.false_eq_true, false_or]
    rfl

/-- A loop binds a name to an object, a variable has the name, and so has a supplied object. -/
theorem Env.resolve?_eq_follow?_iff_of_item :
    let item : Value := .object none [("a".toList, .text "inner".toList)]
    let supplied : Value := .object none [("a".toList, .text "outer".toList)]
    let env : Env :=
      ⟨[("s".toList, item)], [("s".toList, .bool true)], [("s".toList, supplied)]⟩
    (∀ scope ∈ env.layers, scope.get? "s.a".toList = none) ∧
      env.BindsInnermost "s".toList item ∧
      Path.resolve? env.lookup "s.a".toList = Path.follow? item ["a".toList] ∧
      Path.follow? item ["a".toList] = some (.text "inner".toList) := by
  intro item supplied env
  have parts : Path.segments "s.a".toList = ["s".toList, "a".toList] := by decide +kernel
  have free : ∀ scope ∈ env.layers, scope.get? "s.a".toList = none :=
    Env.get?_eq_none_iff.mp rfl
  have bound : env.BindsInnermost "s".toList item := Env.get?_eq_some_iff.mp rfl
  obtain ⟨container, -⟩ := Env.resolve?_eq_follow?_iff parts free bound
  exact ⟨free, bound, container rfl, rfl⟩

/-- **A scalar does not shadow an object**: the path goes through the number that the loop binds to
its first part, and names a member of the supplied object of this name. -/
theorem Env.scalar_lets_object_through :
    let item : Value := .number (Number.ofNat 1)
    let supplied : Value := .object none [("a".toList, .text "X".toList)]
    let env : Env := ⟨[("s".toList, item)], [], [("s".toList, supplied)]⟩
    let tag (inner : String) : Text := Markup.opening ++ inner.toList ++ Markup.closing
    let session : Session := { loader := Loader.ofTemplates [] }
    let values : Values := [("xs".toList, .list [item]), ("s".toList, supplied)]
    (∀ scope ∈ env.layers, scope.get? "s.a".toList = none) ∧
      env.BindsInnermost "s".toList item ∧
      Path.follow? item ["a".toList] = none ∧
      Path.resolve? env.lookup "s.a".toList = some (.text "X".toList) ∧
      (session.render 0 (tag " for s in xs " ++ tag " s.a " ++ tag " endfor ") values).1.toOption =
        some "X".toList := by
  intro item supplied env tag session values
  exact ⟨Env.get?_eq_none_iff.mp rfl, Env.get?_eq_some_iff.mp rfl, rfl, rfl, by decide +kernel⟩

end Stencil
