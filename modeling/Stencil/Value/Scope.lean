import Stencil.Text.Case
import Stencil.Value.Supplied

/-!
# Scopes

A scope binds names to values. The scope of a render is built from the supplied values;
placeholders see it through the variables that were set and the bindings of the loops
around them.

## Main definitions

* `Scope`: names bound to values
* `Scope.keyOf?`: the name under which a supplied value is found
* `Scope.ofValues`: the scope of the supplied values
* `Lookup`: how names are found
* `Env`: three scopes, the inner ones in front
-/

namespace Stencil

/-- Names bound to values. -/
abbrev Scope := Bindings

/-- How names are found: exactly, and, for objects only, without regard to letter case. -/
structure Lookup where
  /-- The value bound to exactly this name. -/
  get? : Text → Option Value
  /-- The object bound to a name that differs at most in letter case. -/
  object? : Text → Option Value

namespace Scope

/-- The first object whose name differs at most in letter case. -/
def object? (scope : Scope) (name : Text) : Option Value :=
  (scope.find? fun (key, value) => value.isObject && Text.sameIgnoringCase key name).map Prod.snd

/-- The lookup in one scope. -/
def lookup (scope : Scope) : Lookup where
  get? := scope.get?
  object? := scope.object?

/-- Whether a key is a position: digits only. -/
def isPosition (key : Text) : Bool :=
  key != [] && key.all Char.isDigit

/-- The name under which a supplied value is found. An object under a position is found
under its type name and an object under a name under this name, both in lower case. Other
values keep their key, and are dropped if it is a position. -/
def keyOf? (key : Text) (value : Value) : Option Text :=
  match value with
  | .object typeName _ =>
    if isPosition key then typeName.map Text.lowerCase else some (Text.lowerCase key)
  | _ => if isPosition key then none else some key

/-- The scope of supplied values, bound one after the other under the names of `keyOf?`. -/
def ofValues (values : Values) : Scope :=
  values.foldl (fun scope (key, value) =>
    match keyOf? key value with
    | some name => scope.insert name value
    | none => scope) []

end Scope

/-- What a placeholder sees: the bindings of the loops around it, in front of the variables
that were set, in front of the supplied values. -/
structure Env where
  /-- The bindings of the loops around a placeholder. -/
  locals : Scope
  /-- The variables that were set. -/
  globals : Scope
  /-- The supplied values. -/
  values : Scope

namespace Env

/-- The scopes, inner ones first. -/
def layers (env : Env) : List Scope := [env.locals, env.globals, env.values]

/-- The lookup through the scopes; each kind of search takes the first scope in which it
finds something. -/
def lookup (env : Env) : Lookup where
  get? name := env.layers.findSome? fun scope => scope.get? name
  object? name := env.layers.findSome? fun scope => scope.object? name

end Env

end Stencil
