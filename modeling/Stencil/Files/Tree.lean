import Stencil.Files.Path

/-!
# File trees

Directories, files and symbolic links. A path is followed step by step from the working
directory or from the root; a link is replaced by its target on the way.

## Main definitions

* `FileContent`, `FileEntry`, `FileTree`: the entries of a tree under their names from the
  root
* `FileTree.resolve?`: the place to which a path leads
* `FileTree.read`, `FileTree.write`: the text of a file, and a tree in which a file has a
  given text
-/

namespace Stencil

/-- The content of a file. -/
inductive FileContent where
  /-- Text. -/
  | text (content : Text)
  /-- Bytes that are no text. -/
  | bytes (content : List UInt8)
  deriving DecidableEq, Repr

/-- What a name in a directory stands for. -/
inductive FileEntry where
  /-- A file. -/
  | file (content : FileContent)
  /-- A directory. -/
  | directory
  /-- A symbolic link. -/
  | link (target : Text)
  deriving DecidableEq, Repr

/-- Why a file cannot be read or written. -/
inductive FileFault where
  /-- The path leads nowhere. -/
  | missing
  /-- The path leads to a directory. -/
  | isDirectory
  /-- The file holds no text. -/
  | notText
  deriving DecidableEq, Repr

/-- The wording of a fault. -/
def FileFault.message : FileFault → Text
  | .missing => "no such file or directory"
  | .isDirectory => "is a directory"
  | .notText => "the file does not contain valid text"

/-- A place in a tree: the names that lead to it from the root. -/
abbrev Place := List Text

/-- Entries under their places. The root itself is always a directory. -/
structure FileTree where
  /-- The entries; the first one of a place counts. -/
  entries : List (Place × FileEntry) := []
  /-- Where relative paths start. -/
  workingDirectory : Place := []
  deriving DecidableEq, Repr

namespace FileTree

/-- The entry at a place. -/
def entry? (tree : FileTree) (place : Place) : Option FileEntry :=
  if place = [] then some .directory
  else (tree.entries.find? fun (key, _) => key == place).map Prod.snd

/-- Whether there is a directory at a place. -/
def isDirectoryAt (tree : FileTree) (place : Place) : Bool :=
  tree.entry? place == some .directory

/-- The most links that are followed for one path. -/
def maxLinks : Nat := 40

/-- The most parts that the target of a link has. -/
def maxTargetParts (tree : FileTree) : Nat :=
  let lengths := tree.entries.map fun (_, entry) =>
    match entry with
    | .link target => (FilePath.parts target).length
    | _ => 0
  lengths.max?.getD 0

theorem length_parts_le {tree : FileTree} {place : Place} {target : Text}
    (h : tree.entry? place = some (.link target)) :
    (FilePath.parts target).length ≤ tree.maxTargetParts := by
  unfold entry? at h
  split at h
  · cases h
  · obtain ⟨⟨key, entry⟩, found, rfl⟩ := Option.map_eq_some_iff.mp h
    exact List.le_max?_getD_of_mem (List.mem_map.mpr ⟨_, List.mem_of_find?_eq_some found, rfl⟩)

/-- Follows parts from a place, with a number of links that may still be taken. With
`create` the last name need not exist. -/
def follow? (tree : FileTree) (create : Bool) : (links : Nat) → Place → List PathPart → Option Place
  | _, place, [] => some place
  | links, place, part :: rest =>
    if !tree.isDirectoryAt place then none
    else
      match part with
      | .here => follow? tree create links place rest
      | .up => follow? tree create links place.dropLast rest
      | .named name =>
        match _found : tree.entry? (place ++ [name]) with
        | none => if create && rest == [] then some (place ++ [name]) else none
        | some (.link target) =>
          match links with
          | 0 => none
          | links + 1 =>
            follow? tree create links (if FilePath.isAbsolute target then [] else place)
              (FilePath.parts target ++ rest)
        | some _ => follow? tree create links (place ++ [name]) rest
-- a link costs more than its target can add to what is left of the path
termination_by links _ parts => links * (tree.maxTargetParts + 1) + parts.length
decreasing_by
  · simp
  · simp
  · have := length_parts_le _found
    simp only [List.length_append, List.length_cons, Nat.succ_mul]
    omega
  · simp

/-- The place from which a path starts. -/
def startOf (tree : FileTree) (path : Text) : Place :=
  if FilePath.isAbsolute path then [] else tree.workingDirectory

/-- The place to which a path leads, links followed. -/
def resolve? (tree : FileTree) (path : Text) : Option Place :=
  if path = [] then none else tree.follow? false maxLinks (tree.startOf path) (FilePath.parts path)

/-- Whether a path leads to a file. -/
def isFile (tree : FileTree) (path : Text) : Bool :=
  match (tree.resolve? path).bind tree.entry? with
  | some (.file _) => true
  | _ => false

/-- The text of the file at a place. -/
def readAt (tree : FileTree) (place : Place) : Except FileFault Text :=
  match tree.entry? place with
  | some (.file (.text content)) => .ok content
  | some (.file (.bytes _)) => .error .notText
  | some .directory => .error .isDirectory
  | some (.link _) | none => .error .missing

/-- The text of the file to which a path leads. -/
def read (tree : FileTree) (path : Text) : Except FileFault Text :=
  match tree.resolve? path with
  | none => .error .missing
  | some place => tree.readAt place

/-- The tree with an entry at a place. -/
def insert (tree : FileTree) (place : Place) (entry : FileEntry) : FileTree :=
  { tree with entries := (place, entry) :: tree.entries.filter fun (key, _) => key != place }

/-- The tree in which the file to which a path leads has a given text. The file is made if
only its last name is missing. -/
def write (tree : FileTree) (path content : Text) : Except FileFault FileTree :=
  let place? :=
    if path = [] then none
    else tree.follow? true maxLinks (tree.startOf path) (FilePath.parts path)
  match place? with
  | none => .error .missing
  | some place =>
    if tree.isDirectoryAt place then .error .isDirectory
    else .ok (tree.insert place (.file (.text content)))

end FileTree

end Stencil
