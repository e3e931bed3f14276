import Stencil.Text.Basic

/-!
# File paths

A path is a text whose parts are separated by slashes. It starts at the root of the files
if it begins with a slash, and at the working directory otherwise.

## Main definitions

* `PathPart`, `FilePath.parts`: the parts of a path as steps from directory to directory
* `FilePath.joined`, `FilePath.parent`, `FilePath.extension`: operations on paths
* `FilePath.confine?`: the names that a relative path leads through, if it never climbs
  above its start
-/

namespace Stencil

/-- A part of a path. -/
inductive PathPart where
  /-- The directory itself. -/
  | here
  /-- The directory above. -/
  | up
  /-- An entry of the directory. -/
  | named (name : Text)
  deriving DecidableEq, Repr

/-- The step that a part of a path asks for. -/
def PathPart.ofText (part : Text) : PathPart :=
  if part = [] ∨ part = ['.'] then .here
  else if part = ['.', '.'] then .up
  else .named part

namespace FilePath

/-- Whether a path starts at the root. -/
def isAbsolute (path : Text) : Bool :=
  path.head? == some '/'

/-- The texts between the slashes of a path, without the slash at the root. -/
def sections (path : Text) : List Text :=
  Text.split (· == '/') (if isAbsolute path then path.tail else path)

/-- The parts of a path. -/
def parts (path : Text) : List PathPart :=
  (sections path).map PathPart.ofText

/-- A path seen from a base. -/
def joined (base path : Text) : Text :=
  if isAbsolute path then path
  else if base = [] ∨ base.getLast? = some '/' then base ++ path
  else base ++ '/' :: path

/-- The path of names that lead from a base to an entry. -/
def ofNames (names : List Text) : Text :=
  Text.join ['/'] names

/-- Whether a section of a path says nothing about where it leads. -/
def isVoid (part : Text) : Bool :=
  part == [] || part == ['.']

/-- Sections without those at the end that say nothing; a dot at the very start stays. -/
def dropVoidEnd : List Text → List Text
  | [] => []
  | part :: rest =>
    match rest.reverse.dropWhile isVoid with
    | [] => if part = [] then [] else [part]
    | kept => part :: kept.reverse

/-- The path without its last part. -/
def parent (path : Text) : Text :=
  let kept := dropVoidEnd (dropVoidEnd (sections path)).dropLast
  (if isAbsolute path then ['/'] else []) ++ ofNames kept

/-- The last name of a path, if it ends in one. -/
def lastName? (path : Text) : Option Text :=
  match ((parts path).filter (· ≠ .here)).getLast? with
  | some (.named name) => some name
  | _ => none

/-- What follows the last dot of the last name. A dot at the start of a name does not count,
and a path without such a dot has no extension. -/
def extension (path : Text) : Text :=
  match lastName? path with
  | none => []
  | some name =>
    match Text.cutLast? ['.'] name with
    | some (_ :: _, after) => after
    | _ => []

/-! ### Confined paths -/

/-- Follows parts from inside a directory, where `inside` holds the names entered so far,
the last one first. None if the directory would be left. -/
def confineFrom? : (inside : List Text) → List PathPart → Option (List Text)
  | inside, [] => some inside.reverse
  | inside, .here :: rest => confineFrom? inside rest
  | inside, .named name :: rest => confineFrom? (name :: inside) rest
  | [], .up :: _ => none
  | _ :: inside, .up :: rest => confineFrom? inside rest

/-- The names that lead to the target of a path from its start; none if the path starts at
the root or climbs above its start. -/
def confine? (path : Text) : Option (List Text) :=
  if isAbsolute path then none else confineFrom? [] (parts path)

end FilePath

end Stencil
