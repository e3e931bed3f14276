import Stencil.Value.Basic

/-!
# Supplied values

The values a caller hands to a render, in the order in which they were supplied. A value
without a name gets its position as key.

## Main definitions

* `Values`: the supplied values under their keys
* `Values.push`: adds a value under its position
* `Value.plain`: the plain form of a record: sorted keys and no type names inside
* `Value.typed`: an object with a type name
-/

namespace Stencil

/-- The values a caller supplies, under their keys. -/
abbrev Values := Bindings

namespace Values

/-- Adds a value at the end; its key is the number of entries before it. -/
def push (values : Values) (value : Value) : Values :=
  values ++ [(Text.ofNat values.length, value)]

/-- Adds the entries of `others` one after the other; the last value of a key wins. -/
def merge (values others : Values) : Values :=
  others.foldl (fun values (key, value) => Bindings.insert values key value) values

end Values

namespace Value

/-- Puts a field in the place that its name has in the order of names; an existing field of
this name is replaced. -/
def insertSorted (fields : Bindings) (name : Text) (value : Value) : Bindings :=
  match fields with
  | [] => [(name, value)]
  | (key, old) :: rest =>
    match Text.order name key with
    | .lt => (name, value) :: (key, old) :: rest
    | .eq => (name, value) :: rest
    | .gt => (key, old) :: insertSorted rest name value

mutual

/-- The plain form of a value: fields in the order of their names, no type names, and null
for a number that is not finite. -/
def plain : Value → Value
  | .null => .null
  | .bool value => .bool value
  | .number n => if n.isFinite then .number n else .null
  | .text value => .text value
  | .list items => .list (plainItems items)
  | .object _ fields => .object none (plainFields fields [])

/-- The plain forms of the elements of a list. -/
def plainItems : List Value → List Value
  | [] => []
  | item :: rest => plain item :: plainItems rest

/-- The plain forms of fields, added in order to those already `placed`. -/
def plainFields : List (Text × Value) → Bindings → Bindings
  | [], placed => placed
  | (name, value) :: rest, placed => plainFields rest (insertSorted placed name (plain value))

end

/-- The value with a type name, if it is an object. -/
def typed (typeName : Text) : Value → Value
  | .object _ fields => .object (some typeName) fields
  | value => value

end Value

end Stencil
