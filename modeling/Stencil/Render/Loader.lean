import Stencil.Failure

/-!
# Loaders

A loader supplies the text of an imported template. Import paths are confined to the
directory of templates before they reach a loader; the loader of a file tree also watches
where links lead.

## Main definitions

* `Loader`: from the directory of templates and a path in it to a text
* `Loader.ofTemplates`: templates given as texts
* `FileTree.load`: templates in the files of a tree
* `confinedImport`: the path that reaches a loader for an import
-/

namespace Stencil

/-- From the directory of templates and a path in it to the text of a template. -/
abbrev Loader := (root path : Text) → Except Failure Text

/-- The loader for templates given as texts under their paths. -/
def Loader.ofTemplates (templates : List (Text × Text)) : Loader := fun root path =>
  match templates.find? fun (key, _) => key == path with
  | some (_, content) => .ok content
  | none => .error (.importNotFound path root)

/-- The text of the file to which a path leads from a directory. With all links followed,
the file has to lie in this directory. -/
def FileTree.load (tree : FileTree) : Loader := fun root path =>
  match tree.resolve? root with
  | none => .error (.importNotFound path root)
  | some base =>
    match tree.follow? false FileTree.maxLinks (if FilePath.isAbsolute path then [] else base)
        (FilePath.parts path) with
    | none => .error (.importNotFound path root)
    | some place =>
      if !base.isPrefixOf place then .error (.outsideRoot path root)
      else
        match tree.readAt place with
        | .ok content => .ok content
        | .error .notText => .error (.file .notText)
        | .error _ => .error (.importNotFound path root)

/-- The path that reaches a loader for an import: the names that the import leads through.
An import may not start at the root or climb above the directory of templates, and it has
to lead through some name. -/
def confinedImport (root path : Text) : Except Failure Text :=
  match FilePath.confine? path with
  | none => .error (.outsideRoot path root)
  | some [] => .error (.importNotFound path root)
  | some names => .ok (FilePath.ofNames names)

end Stencil
