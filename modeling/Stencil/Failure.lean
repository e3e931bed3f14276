import Stencil.Files.Tree

/-!
# Failures

What ends a render or a command. Everything else is an issue.

## Main definitions

* `Failure`: the causes of a failure
* `Failure.message`, `Failure.code`, `Failure.help?`: its wording, its code, and advice
-/

namespace Stencil

/-- Why a data file supplies no values. -/
inductive DataFault where
  /-- The file cannot be read. -/
  | unreadable (fault : FileFault)
  /-- The content is not written in its format. -/
  | malformed
  /-- The content is no table. -/
  | notTable
  deriving DecidableEq, Repr

/-- The wording of a fault. -/
def DataFault.message : DataFault → Text
  | .unreadable fault => fault.message
  | .malformed => "the content is malformed"
  | .notTable => "the top level must be a table of named values"

/-- What ends a render or a command. A substitution is not among these: the matcher of all texts
to be replaced is assumed to fit in its memory limit of 256 MiB, so that it can always be built. -/
inductive Failure where
  /-- A file cannot be read or written. -/
  | file (fault : FileFault)
  /-- The settings are not written as they should be. -/
  | malformedSettings
  /-- A data file supplies no values. -/
  | dataFile (path : Text) (fault : DataFault)
  /-- The format of a data file is not known. -/
  | unknownFormat (name : Text)
  /-- There is no directory to import from. -/
  | noTemplateRoot (path : Text)
  /-- An import leads out of the directory of templates. -/
  | outsideRoot (path root : Text)
  /-- An import leads to no file. -/
  | importNotFound (path root : Text)
  /-- Blocks and imports nest too deeply. -/
  | tooDeep (limit : Nat)
  deriving DecidableEq, Repr

namespace Failure

/-- The wording of a failure. -/
def message : Failure → Text
  | file fault => fault.message
  | malformedSettings => "failed to parse config file"
  | dataFile path fault =>
    "failed to load data file ".toList ++ path.ticked ++ ": ".toList ++ fault.message
  | unknownFormat name => "unsupported data file format: ".toList ++ name.ticked
  | noTemplateRoot path =>
    "cannot import ".toList ++ path.ticked ++ ": no template root is configured".toList
  | outsideRoot path root =>
    "import ".toList ++ path.ticked ++ " resolves outside of the template root ".toList ++
      root.ticked
  | importNotFound path root =>
    "import ".toList ++ path.ticked ++ " was not found under the template root ".toList ++
      root.ticked
  | tooDeep limit =>
    "template nesting exceeded the maximum depth of ".toList ++ Text.ofNat limit

/-- The code of a failure. -/
def code : Failure → Text
  | file _ => "docfill::io_error"
  | malformedSettings => "docfill::config_parse"
  | dataFile _ _ => "docfill::data_file"
  | unknownFormat _ => "docfill::unsupported_format"
  | noTemplateRoot _ => "docfill::missing_template_root"
  | outsideRoot _ _ => "docfill::import_security_violation"
  | importNotFound _ _ => "docfill::import_not_found"
  | tooDeep _ => "docfill::recursion_limit"

/-- Advice on a failure. -/
def help? : Failure → Option Text
  | malformedSettings => some "check that docfill.toml is valid TOML"
  | unknownFormat _ => some "supported formats: text, json, toml, yaml, yml, kdl, ini"
  | noTemplateRoot _ => some "set `template_root` in docfill.toml or pass `--root`"
  | outsideRoot _ _ =>
    some "imports must be relative paths that stay inside the template root"
  | tooDeep _ => some "check for templates that import themselves or raise `max_depth`"
  | file _ | dataFile _ _ | importNotFound _ _ => none

end Failure

end Stencil
