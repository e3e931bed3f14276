import Stencil.Failure
import Stencil.Settings.Basic
import Stencil.Value.Supplied
import Stencil.Data.Json
import Stencil.Data.Ini
import Stencil.Data.Toml.Reader
import Stencil.Data.Kdl.Reader
import Stencil.Data.Yaml.Node

/-!
# Data files

The formats of data files, and the values that these files supply.

## Main definitions

* `DataFormat`, `DataFormat.ofName`, `DataFormat.ofPath`: the formats, by name or by the
  extension of a file
* `DataFormat.parse?`: the value of a content
* `FileTree.dataValue`: the value of a data file
* `FileTree.dataValues`: the fields of a data file as supplied values
-/

namespace Stencil

/-- The formats of data files. -/
inductive DataFormat where
  /-- The whole content is a text. -/
  | text
  | json
  | toml
  | yaml
  | kdl
  | ini
  deriving DecidableEq, Repr

namespace DataFormat

/-- The names of the formats. -/
def names : List (Text × DataFormat) :=
  [("text", text), ("string", text), ("raw", text), ("txt", text), ("json", json), ("toml", toml),
    ("yaml", yaml), ("yml", yaml), ("kdl", kdl), ("ini", ini)]

/-- The format with a name, in any letter case. -/
def ofName (name : Text) : Except Failure DataFormat :=
  let name := Text.lower (Text.trim name)
  match names.lookup name with
  | some format => .ok format
  | none => .error (.unknownFormat name)

/-- The format that the extension of a path names. -/
def ofPath (path : Text) : Except Failure DataFormat :=
  ofName (FilePath.extension path)

/-- The value of a content. -/
def parse? (content : Text) : DataFormat → Option Value
  | text => some (.text content)
  | json => Json.parse? content
  | toml => (Toml.parse? content).map Toml.value
  | yaml => Yaml.parse? content
  | kdl => (Kdl.parse? content).map fun nodes => .object none (KdlNode.fields nodes)
  | ini => Ini.parse? content

end DataFormat

/-- The format of a data source. -/
def DataSource.format (source : DataSource) : Except Failure DataFormat :=
  match source.formatName with
  | some name => DataFormat.ofName name
  | none => DataFormat.ofPath source.path

namespace FileTree

/-- The value of a data file. -/
def dataValue (tree : FileTree) (path : Text) (format : DataFormat) : Except Failure Value :=
  match tree.read path with
  | .error fault => .error (.dataFile path (.unreadable fault))
  | .ok content =>
    match format.parse? content with
    | some value => .ok value
    | none => .error (.dataFile path .malformed)

/-- The fields of a data file, which has to hold an object, as supplied values. -/
def dataValues (tree : FileTree) (path : Text) : Except Failure Values := do
  let format ← DataFormat.ofPath path
  match ← tree.dataValue path format with
  | .object _ fields => return Bindings.ofPairs fields
  | _ => throw (.dataFile path .notTable)

end FileTree

end Stencil
