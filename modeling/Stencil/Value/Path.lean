import Stencil.Text.Letter
import Stencil.Value.Scope

/-!
# Paths

A path names a value inside containers: a name followed by field names or indexes, joined
by dots.

## Main definitions

* `Path.isIdentifier`, `Path.isDotted`: the shapes of names and of paths
* `Path.resolve?`: the value that a path names
-/

namespace Stencil.Path

/-- Letters, digits and underscores. -/
def isNameCharacter (c : Char) : Bool :=
  Text.isAlphanumeric c || c == '_'

/-- A name: letters, digits and underscores that do not start with a digit. -/
def isIdentifier : Text → Bool
  | [] => false
  | c :: rest => (Text.isAlphabetic c || c == '_') && rest.all isNameCharacter

/-- The parts of a path between its dots. -/
def segments (path : Text) : List Text :=
  Text.split (· == '.') path

/-- A name and at least one further part, each of letters, digits and underscores. -/
def isDotted (path : Text) : Bool :=
  match segments path with
  | first :: next :: rest =>
    isIdentifier first &&
      (next :: rest).all fun segment => segment != [] && segment.all isNameCharacter
  | _ => false

/-- Follows members of containers. -/
def follow? (value : Value) : List Text → Option Value
  | [] => some value
  | segment :: rest => (value.member? segment).bind fun member => follow? member rest

/-- The container at which a path starts: the value of this name if it is a container, or
else an object whose name differs at most in letter case. -/
def start? (lookup : Lookup) (name : Text) : Option Value :=
  ((lookup.get? name).filter Value.isContainer).or (lookup.object? name)

/-- The value that a path names. A value bound to the whole path comes first; otherwise the
first part names a container whose members the other parts, at least one, follow. -/
def resolve? (lookup : Lookup) (path : Text) : Option Value :=
  match lookup.get? path with
  | some value => some value
  | none =>
    match segments path with
    | first :: next :: rest => (start? lookup first).bind fun value => follow? value (next :: rest)
    | _ => none

end Stencil.Path
