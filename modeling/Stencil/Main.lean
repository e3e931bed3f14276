import Std.Time.DateTime.Timestamp
import Stencil.Command.Run

/-!
# The program

A run is a function of the files, so the program looks up the files first: it runs with the
files that it knows, finds out which paths that run follows, adds what lies on them, and
starts again until a run follows no new path. Only then something is printed or written.

## Main definitions

* `Stencil.Command.explore`: a file tree with what lies on a path
* `Stencil.Command.discover`: a file tree with all that a run needs
* `main`: the program
-/

namespace Stencil.Command

/-- The path to a place. -/
def pathTo (place : Place) : String :=
  String.ofList ('/' :: FilePath.ofNames place)

/-- The place to which a path really leads. -/
def realPlace? (path : String) : IO (Option Place) := do
  try
    let real ← IO.FS.realPath path
    return some ((FilePath.sections real.toString.toList).filter (· ≠ []))
  catch _ => return none

/-- What lies at a place. -/
def contentAt? (place : Place) : IO (Option FileEntry) := do
  try
    let bytes ← IO.FS.readBinFile (pathTo place)
    match String.fromUTF8? bytes with
    | some text => return some (.file (.text text.toList))
    | none => return some (.file (.bytes bytes.toList))
  catch _ =>
    try
      let _ ← IO.FS.realPath (pathTo place ++ "/.")
      return some .directory
    catch _ => return none

/-- The tree with the directories above a place. -/
def withParents (tree : FileTree) (place : Place) : FileTree :=
  (List.range place.length).foldl (fun tree n => tree.insert (place.take n) .directory) tree

/-- The tree with what lies on the way from a directory. A link stands for the place to
which it really leads. -/
def explore (tree : FileTree) (place : Place) : List PathPart → IO FileTree
  | [] => return tree
  | .here :: rest => explore tree place rest
  | .up :: rest => explore tree place.dropLast rest
  | .named name :: rest => do
    let next := place ++ [name]
    match ← realPlace? (pathTo next) with
    | none => return tree
    | some real =>
      match ← contentAt? real with
      | none => return tree
      | some entry =>
        let tree := (withParents tree real).insert real entry
        let tree :=
          if real = next then tree
          else tree.insert next (.link ('/' :: FilePath.ofNames real))
        explore tree real rest

/-- The tree with all that a run needs; `known` are the paths that were followed before. -/
partial def discover (clock : Int) (words : List Text) (known : List Text) (tree : FileTree) :
    IO FileTree := do
  let paths := (consulted tree clock words).eraseDups.filter fun path => !known.contains path
  if paths = [] then return tree
  let tree ← paths.foldlM
    (fun tree path => explore tree (tree.startOf path) (FilePath.parts path)) tree
  discover clock words (known ++ paths) tree

/-- Prints what a run leaves behind, and writes its file. -/
def conclude (outcome : Outcome) : IO UInt32 := do
  try
    if let some (path, content) := outcome.saved then
      IO.FS.writeFile (String.ofList path) (String.ofList content)
    IO.print (String.ofList outcome.output)
    IO.eprint (String.ofList outcome.notes)
    return outcome.exit.code.toUInt32
  catch problem =>
    IO.eprintln problem
    return Exit.failure.code.toUInt32

end Stencil.Command

open Stencil.Command in
/-- Runs the program with its arguments. -/
def main (arguments : List String) : IO UInt32 := do
  let words := arguments.map String.toList
  let clock := (← Std.Time.Timestamp.now).toSecondsSinceUnixEpoch.val
  let start := (← realPlace? ".").getD []
  let tree := Stencil.FileTree.insert ⟨[], start⟩ start .directory
  conclude (run (← discover clock words [] (withParents tree start)) clock words)
