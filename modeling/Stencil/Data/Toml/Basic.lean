import Stencil.Value.Supplied

/-!
# TOML documents

The values of TOML documents, and how a document grows: headers open tables, and dotted
keys make tables on their way. A table remembers how it came about, because this decides
what may still be added to it.

## Main definitions

* `TableOrigin`, `Toml`: tables and the other values
* `Toml.descend?`: a change inside the table at the end of a path
* `Toml.assign?`, `Toml.openTable?`, `Toml.appendTable?`: what the lines of a document do
* `Toml.value`: the plain value, with the fields of tables in the order of their names
-/

namespace Stencil

/-- How a table came about. -/
inductive TableOrigin where
  /-- It was passed by the path of a header. -/
  | passed
  /-- It was passed by a dotted key. -/
  | dotted
  /-- A header opened it. -/
  | opened
  /-- It was written in braces. -/
  | braces
  deriving DecidableEq, Repr

/-- A value of a TOML document. -/
inductive Toml where
  | string (content : Text)
  | integer (value : Int)
  | float (value : Number)
  | bool (value : Bool)
  /-- A date, a time, or both, in its usual form. -/
  | moment (form : Text)
  | array (items : List Toml)
  | table (origin : TableOrigin) (entries : List (Text × Toml))
  /-- Tables that headers in double brackets appended, the latest first. -/
  | tables (latestFirst : List (List (Text × Toml)))
  deriving Inhabited

namespace Toml

/-- The entries of a table. -/
abbrev Entries := List (Text × Toml)

/-! ### Growth of a document -/

/-- Changes the value of a key; without one the change starts from nothing. -/
def change? (change : Option Toml → Option Toml) (key : Text) : Entries → Option Entries
  | [] => (change none).map fun value => [(key, value)]
  | (name, value) :: rest =>
    if name = key then (change (some value)).map fun value => (name, value) :: rest
    else (change? change key rest).map ((name, value) :: ·)

/-- A change inside the table at the end of a path. Missing tables are made on the way, and
of appended tables the latest is meant. A dotted key may not pass a table that a header
opened. -/
def descend? (isDotted : Bool) (change : Entries → Option Entries) :
    List Text → Entries → Option Entries
  | [], entries => change entries
  | key :: path, entries =>
    change? (fun
      | none =>
        (descend? isDotted change path []).map (.table (if isDotted then .dotted else .passed))
      | some (.table origin inner) =>
        if origin = .braces ∨ isDotted ∧ origin = .opened then none
        else (descend? isDotted change path inner).map (.table origin)
      | some (.tables (latest :: earlier)) =>
        (descend? isDotted change path latest).map fun latest => .tables (latest :: earlier)
      | _ => none) key entries

/-- Gives a value to a key that has none. -/
def assign? (keys : List Text) (value : Toml) (entries : Entries) : Option Entries :=
  match keys.getLast? with
  | none => none
  | some last =>
    descend? true (change? (fun old => if old.isNone then some value else none) last)
      keys.dropLast entries

/-- Opens the table at a path, which may have been passed before but not opened. -/
def openTable? (path : List Text) (entries : Entries) : Option Entries :=
  match path.getLast? with
  | none => none
  | some last =>
    descend? false (change? (fun
      | none => some (.table .opened [])
      | some (.table .passed inner) => some (.table .opened inner)
      | _ => none) last) path.dropLast entries

/-- Appends a table to those at a path. -/
def appendTable? (path : List Text) (entries : Entries) : Option Entries :=
  match path.getLast? with
  | none => none
  | some last =>
    descend? false (change? (fun
      | none => some (.tables [[]])
      | some (.tables earlier) => some (.tables ([] :: earlier))
      | _ => none) last) path.dropLast entries

/-! ### Plain values -/

mutual

/-- The plain value. -/
def value : Toml → Value
  | .string content => .text content
  | .integer n => .number (Number.ofInt n)
  | .float n => .number n
  | .bool b => .bool b
  | .moment form => .text form
  | .array items => .list (itemValues items)
  | .table _ entries => .object none (entryValues entries [])
  | .tables latestFirst => .list (tableValues latestFirst [])

/-- The plain values of elements. -/
def itemValues : List Toml → List Value
  | [] => []
  | item :: rest => value item :: itemValues rest

/-- The plain values of entries, put in order among those already `placed`. -/
def entryValues : List (Text × Toml) → Bindings → Bindings
  | [], placed => placed
  | (key, item) :: rest, placed =>
    entryValues rest (Value.insertSorted placed key (value item))

/-- The plain values of appended tables, in front of those already `placed`. -/
def tableValues : List (List (Text × Toml)) → List Value → List Value
  | [], placed => placed
  | entries :: earlier, placed =>
    tableValues earlier (.object none (entryValues entries []) :: placed)

end

end Toml

end Stencil
