import Stencil.Text.Blank
import Stencil.Number.Decimal

/-!
# Values

A value fills a placeholder or takes part in an expression. Scalars print directly; lists
and objects are containers, reached through paths and loops.

## Main definitions

* `Value`: the kinds of values
* `Bindings`: names bound to values, in order
* `Bindings.insert`, `Bindings.get?`: an insertion replaces the value of an existing name
  in place; the first binding of a name counts
* `Value.isEmpty`, `Value.isTruthy`: whether a value counts as empty
* `Value.member?`: a field of an object or an element of a list
* `Value.same`: structural equality, where numbers are compared by value
-/

namespace Stencil

/-- A value. An object has fields in order, and may carry the name of its type. -/
inductive Value where
  | null
  | bool (value : Bool)
  | number (value : Number)
  | text (value : Text)
  | list (items : List Value)
  | object (typeName : Option Text) (fields : List (Text × Value))
  deriving Inhabited

/-- Names bound to values, in order. -/
abbrev Bindings := List (Text × Value)

namespace Bindings

/-- Binds a name. An existing first binding of the name gets the new value in its place;
otherwise the binding is added at the end. -/
def insert : Bindings → Text → Value → Bindings
  | [], name, value => [(name, value)]
  | (key, old) :: rest, name, value =>
    if key = name then (key, value) :: rest else (key, old) :: insert rest name value

/-- The value of the first binding of a name. -/
def get? (bindings : Bindings) (name : Text) : Option Value :=
  (bindings.find? fun (key, _) => key == name).map Prod.snd

/-- The names, in order. -/
def names (bindings : Bindings) : List Text := bindings.map Prod.fst

/-- Binds every pair of a list in order. -/
def ofPairs (pairs : List (Text × Value)) : Bindings :=
  pairs.foldl (fun bindings (name, value) => bindings.insert name value) []

@[simp]
theorem get?_nil (name : Text) : get? [] name = none := rfl

theorem get?_cons (key name : Text) (value : Value) (rest : Bindings) :
    get? ((key, value) :: rest) name = if key = name then some value else get? rest name := by
  by_cases h : key = name <;> simp [get?, h]

/-- Inserting binds the name to the value and keeps every other binding. -/
theorem get?_insert (bindings : Bindings) (key name : Text) (value : Value) :
    (bindings.insert key value).get? name =
      if key = name then some value else bindings.get? name := by
  induction bindings with
  | nil => simp [insert, get?_cons]
  | cons first rest ih =>
    obtain ⟨k, old⟩ := first
    rw [insert]
    split
    · next same =>
      subst same
      rw [get?_cons, get?_cons]
      split <;> rfl
    · next different =>
      rw [get?_cons, get?_cons, ih]
      split
      · next hk =>
        subst hk
        rw [if_neg (Ne.symm different)]
      · rfl

end Bindings

namespace Value

/-! ### Emptiness -/

/-- Null, false, a zero, the empty text, the text `0`, and containers without content are
empty. -/
def isEmpty : Value → Bool
  | .null => true
  | .bool value => !value
  | .number n => n.isZero
  | .text value => value == [] || value == ['0']
  | .list items => items.isEmpty
  | .object _ fields => fields.isEmpty

/-- A value is true if it is not empty. -/
def isTruthy (value : Value) : Bool := !value.isEmpty

/-- Whether this is a list or an object. -/
def isContainer : Value → Bool
  | .list _ | .object _ _ => true
  | _ => false

/-- Whether this is an object. -/
def isObject : Value → Bool
  | .object _ _ => true
  | _ => false

/-- Whether this is a text. -/
def isText : Value → Bool
  | .text _ => true
  | _ => false

/-! ### Members -/

/-- A field of an object: one with exactly this name, or else the first whose name differs
at most in letter case. -/
def field? (fields : Bindings) (name : Text) : Option Value :=
  ((fields.find? fun (key, _) => key == name).or
    (fields.find? fun (key, _) => Text.sameIgnoringCase key name)).map Prod.snd

/-- A field of an object, or the element of a list at an index. -/
def member? (value : Value) (name : Text) : Option Value :=
  match value with
  | .object _ fields => field? fields name
  | .list items => (Text.natural? name).bind fun index => items[index]?
  | _ => none

/-! ### Structural equality -/

mutual

/-- Equality of structure: kinds, texts, type names, field names and the order of fields
count, and numbers are compared by value. -/
def same : Value → Value → Bool
  | .null, .null => true
  | .bool a, .bool b => a == b
  | .number a, .number b => a.sameValue b
  | .text a, .text b => a == b
  | .list a, .list b => sameItems a b
  | .object s a, .object t b => s == t && sameFields a b
  | _, _ => false

/-- Equality of lists, element by element. -/
def sameItems : List Value → List Value → Bool
  | [], [] => true
  | a :: as, b :: bs => same a b && sameItems as bs
  | _, _ => false

/-- Equality of fields, in order. -/
def sameFields : List (Text × Value) → List (Text × Value) → Bool
  | [], [] => true
  | (name, a) :: as, (other, b) :: bs => name == other && same a b && sameFields as bs
  | _, _ => false

end

end Value

end Stencil
