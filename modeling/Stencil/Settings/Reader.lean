import Stencil.Data.Format

/-!
# Settings files

Settings are read from a TOML document. A key that is missing keeps its default, keys
without a meaning are passed over, and a value of the wrong kind is an error. The settings
file of a project is looked for at a few places.

## Main definitions

* `Settings.ofToml?`: the settings in a document
* `Settings.candidates`, `FileTree.settingsPath?`: where the settings file may lie
* `FileTree.settings`: the settings of a project
* `FileTree.sourceValues`: the values that the data files of the settings supply
-/

namespace Stencil

namespace Toml

/-- A text. -/
def asText? : Toml → Option Text
  | .string content => some content
  | _ => none

/-- A truth value. -/
def asBool? : Toml → Option Bool
  | .bool value => some value
  | _ => none

/-- A text of one character. -/
def asChar? : Toml → Option Char
  | .string [c] => some c
  | _ => none

/-- An integer that is not negative. -/
def asNat? : Toml → Option Nat
  | .integer n => if 0 ≤ n then some n.toNat else none
  | _ => none

/-- A truth value or a text that says what becomes of placeholders without a value. -/
def asFallback? : Toml → Option Fallback
  | .bool false => some .keep
  | .bool true => some .remove
  | .string replacement => some (.text replacement)
  | _ => none

/-- A path, or a path and the name of a format in a table or in an array. -/
def asSource? : Toml → Option DataSource
  | .string path => some ⟨path, none⟩
  | .array [.string path, .string format] => some ⟨path, some format⟩
  | .table _ entries => do
    return ⟨← (← entries.lookup "path".toList).asText?,
      some (← (← entries.lookup "format".toList).asText?)⟩
  | _ => none

/-- Puts an entry in the place that its name has in the order of names. -/
def insertSource (name : Text) (source : DataSource) :
    List (Text × DataSource) → List (Text × DataSource)
  | [] => [(name, source)]
  | (key, old) :: rest =>
    if Text.order name key = .gt then (key, old) :: insertSource name source rest
    else (name, source) :: (key, old) :: rest

/-- A table of data sources, in the order of their names. -/
def asSources? : Toml → Option (List (Text × DataSource))
  | .table _ entries =>
    entries.foldr (fun (entry : Text × Toml) sources? => do
      return insertSource entry.1 (← asSource? entry.2) (← sources?)) (some [])
  | _ => none

end Toml

namespace Settings

/-- The value of a key, or a default if the key is missing. -/
def entryOr {α : Type} (entries : Toml.Entries) (key : Text) (read : Toml → Option α)
    (default : α) : Option α :=
  match entries.lookup key with
  | none => some default
  | some value => read value

/-- The settings in a document. -/
def ofToml? : Toml → Option Settings
  | .table _ entries => do
    let usual : Settings := {}
    return {
      separator := ← entryOr entries "separator" Toml.asChar? usual.separator
      fallback := ← entryOr entries "force_replace" Toml.asFallback? usual.fallback
      recordIssues := ← entryOr entries "log_errors" Toml.asBool? usual.recordIssues
      dateLayout := ← entryOr entries "date_format" Toml.asText? usual.dateLayout
      timeLayout := ← entryOr entries "time_format" Toml.asText? usual.timeLayout
      decimalPoint := ← entryOr entries "decimal_point" Toml.asText? usual.decimalPoint
      thousandsSeparator :=
        ← entryOr entries "thousands_separator" Toml.asText? usual.thousandsSeparator
      templateRoot :=
        ← entryOr entries "template_root" (fun value => value.asText?.map some) usual.templateRoot
      maxDepth := ← entryOr entries "max_depth" Toml.asNat? usual.maxDepth
      sources := ← entryOr entries "data" Toml.asSources? usual.sources }
  | _ => none

/-- The settings that a text holds. -/
def parse (content : Text) : Except Failure Settings :=
  match (Toml.parse? content).bind ofToml? with
  | some settings => .ok settings
  | none => .error .malformedSettings

/-- Where the settings file of a project may lie; the first one that exists counts. -/
def candidates : List Text :=
  ["docfill.toml", ".docfill.toml", ".config/docfill.toml"]

/-- The settings with a relative directory of templates seen from a directory. -/
def rootedAt (base : Text) (settings : Settings) : Settings :=
  { settings with templateRoot := settings.templateRoot.map (FilePath.joined base) }

end Settings

namespace FileTree

/-- The settings file of a project, if it has one. -/
def settingsPath? (tree : FileTree) (project : Text) : Option Text :=
  (Settings.candidates.map (FilePath.joined project)).find? tree.isFile

/-- The settings of a project, if it has a settings file. The directory of templates is seen
from the directory of this file. -/
def settings (tree : FileTree) (project : Text) : Except Failure (Option Settings) :=
  match tree.settingsPath? project with
  | none => .ok none
  | some path =>
    match tree.read path with
    | .error fault => .error (.file fault)
    | .ok content =>
      (Settings.parse content).map fun settings =>
        some (settings.rootedAt (FilePath.parent path))

/-- The values that data files supply, which are seen from the directory of the project. -/
def sourceValues (tree : FileTree) (project : Text) :
    List (Text × DataSource) → Except Failure Values
  | [] => .ok []
  | (name, source) :: rest => do
    let format ← source.format
    let value ← tree.dataValue (FilePath.joined project source.path) format
    let values ← sourceValues tree project rest
    return (name, value) :: values

end FileTree

end Stencil
