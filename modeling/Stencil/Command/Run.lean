import Stencil.Command.Report
import Stencil.Render.Renderer
import Stencil.Settings.Reader

/-!
# Runs

What a run of the program does, as a function of the files, the present moment and the
arguments. It prints an output and notes, ends with a code, and may write one file.

## Main definitions

* `Outcome`: what a run leaves behind
* `prepare`: the settings and the values with which a template is filled
* `fill`: a filled template with the notes about it
* `run`: a run of the program
* `consulted`: the paths of the files that a run reads
-/

namespace Stencil.Command

/-! ### Outcomes -/

/-- How a run ends. -/
inductive Exit where
  /-- All is well. -/
  | success
  /-- What was expected is not there. -/
  | refusal
  /-- The task could not be done. -/
  | failure
  deriving DecidableEq, Repr

/-- The code of an end. -/
def Exit.code : Exit → Nat
  | success => 0
  | refusal => 1
  | failure => 2

/-- What a run leaves behind. -/
structure Outcome where
  /-- How the run ended. -/
  exit : Exit
  /-- What was printed as the result. -/
  output : Text := []
  /-- What was printed besides. -/
  notes : Text := []
  /-- The files. -/
  tree : FileTree
  /-- The path and the content that were written. -/
  saved : Option (Text × Text) := none
  deriving DecidableEq, Repr

/-- A run that ended early. The files stay as they were. -/
def Outcome.failed (tree : FileTree) (notes message : Text) : Outcome where
  exit := .failure
  notes := notes ++ "error: ".toList ++ message ++ ['\n']
  tree := tree

/-! ### Preparation -/

/-- The settings with what the options say. -/
def FillOptions.over (options : FillOptions) (settings : Settings) : Settings :=
  { settings with
    templateRoot := options.templateRoot.or settings.templateRoot
    fallback :=
      match options.replacement with
      | none => settings.fallback
      | some [] => .remove
      | some replacement => .text replacement
    separator := options.separator.getD settings.separator }

/-- The directory of the project. -/
def Invocation.projectIn (invocation : Invocation) (tree : FileTree) : Text :=
  invocation.project.getD ('/' :: FilePath.ofNames tree.workingDirectory)

/-- The settings and the values with which a template is filled. The settings supply the
first values, and then each data file does; the last value of a name counts. -/
def prepare (tree : FileTree) (project : Text) (options : FillOptions) :
    Except Failure (Settings × Values) := do
  let settings := (← tree.settings project).getD {}
  let supplied ← tree.sourceValues project settings.sources
  let values ← options.dataFiles.foldlM
    (fun (values : Values) path => do return values.merge (← tree.dataValues path)) supplied
  return (options.over settings, values)

/-! ### Filling -/

/-- A filled template. -/
structure Filled where
  /-- The result. -/
  text : Text
  /-- The notes about it. -/
  notes : Text
  deriving DecidableEq, Repr

/-- The note on what was loaded. -/
def loadedNote (settings : Settings) (values : Values) : Text :=
  "Loaded ".toList ++ Text.ofNat values.length ++ " value(s), template root: ".toList ++
    settings.templateRoot.getD "none" ++ ['\n']

/-- The note on an issue. -/
def warning (issue : Issue) : Text :=
  "warning: ".toList ++ issue.line ++ ['\n']

/-- What stays the same while a template is filled. -/
def setup (tree : FileTree) (clock : Int) (settings : Settings) (values : Values) : Setup where
  settings := settings
  values := Scope.ofValues values
  clock := clock
  registry := {}
  loader := tree.load

/-- A filled template with the notes about it, or the outcome of a failure. -/
def fill (tree : FileTree) (clock : Int) (invocation : Invocation) (template : Text)
    (options : FillOptions) : Except Outcome Filled :=
  match prepare tree (invocation.projectIn tree) options with
  | .error failure => .error (.failed tree [] failure.message)
  | .ok (settings, values) =>
    let notes := if invocation.verbose then loadedNote settings values else []
    match tree.read template with
    | .error fault => .error (.failed tree notes fault.message)
    | .ok text =>
      match (render (setup tree clock settings values) text).run {} with
      | (.error failure, _) => .error (.failed tree notes failure.message)
      | (.ok rendered, progress) =>
        .ok ⟨rendered.output, notes ++ progress.issues.flatMap warning⟩

/-! ### Tasks -/

/-- Prints a filled template, or writes it to a file. -/
def deliver (tree : FileTree) (template : Text) (output : Option Text) (filled : Filled) :
    Outcome :=
  match output with
  | none => { exit := .success, output := filled.text, notes := filled.notes, tree := tree }
  | some path =>
    match tree.write path filled.text with
    | .error fault => .failed tree filled.notes fault.message
    | .ok written =>
      { exit := .success
        output := "Rendered ".toList ++ template ++ " to ".toList ++ path ++ ['\n']
        notes := filled.notes
        tree := written
        saved := some (path, filled.text) }

/-- Compares a filled template with a file. -/
def verify (tree : FileTree) (template expected : Text) (showChanges : Bool) (filled : Filled) :
    Outcome :=
  match tree.read expected with
  | .error fault => .failed tree filled.notes fault.message
  | .ok content =>
    if filled.text = content then
      { exit := .success
        output := "Check passed: output matches ".toList ++ expected ++ ".\n".toList
        notes := filled.notes
        tree := tree }
    else
      { exit := .refusal
        notes := filled.notes ++ "Check failed: rendered output of ".toList ++ template ++
          " differs from ".toList ++ expected ++ ['\n'] ++
          (if showChanges then changeReport content filled.text
            else "Run with `--diff` to see the changes.\n".toList)
        tree := tree }

/-- Lists the placeholders of a template. -/
def listing (tree : FileTree) (template : Text) (format : ListFormat) : Outcome :=
  match tree.read template with
  | .error fault => .failed tree [] fault.message
  | .ok text =>
    { exit := .success
      output := placeholderReport format template (Markup.scan text)
      tree := tree }

/-- Does what an invocation asks for. -/
def Invocation.perform (tree : FileTree) (clock : Int) (invocation : Invocation) : Outcome :=
  match invocation.task with
  | none =>
    { exit := .refusal
      notes := "No subcommand specified. Run `docfill --help` for usage.\n"
      tree := tree }
  | some (.render template options output) =>
    match fill tree clock invocation template options with
    | .error outcome => outcome
    | .ok filled => deliver tree template output filled
  | some (.check template expected options showChanges) =>
    match fill tree clock invocation template options with
    | .error outcome => outcome
    | .ok filled => verify tree template expected showChanges filled
  | some (.scan template format) => listing tree template format

/-- A run of the program. -/
def run (tree : FileTree) (clock : Int) (words : List Text) : Outcome :=
  match Invocation.ofWords words with
  | .error .help => { exit := .success, output := usageText, tree := tree }
  | .error .version => { exit := .success, output := versionText, tree := tree }
  | .error (.fault fault) => .failed tree [] fault.message
  | .ok invocation => invocation.perform tree clock

/-! ### Files -/

/-- The files that the settings of a project name. -/
def sourcePaths (tree : FileTree) (project : Text) : List Text :=
  match tree.settings project with
  | .ok (some settings) =>
    settings.sources.map fun (_, source) => FilePath.joined project source.path
  | _ => []

/-- The templates that are imported while a template is filled. -/
def importPaths (tree : FileTree) (clock : Int) (project template : Text)
    (options : FillOptions) : List Text :=
  match prepare tree project options, tree.read template with
  | .ok (settings, values), .ok text =>
    let progress := ((render (setup tree clock settings values) text).run {}).2
    progress.trail.filterMap fun event =>
      match event, settings.templateRoot with
      | .loading path, some root => some (FilePath.joined root path)
      | _, _ => none
  | _, _ => []

/-- The files that are read while a template is filled, or that would be if they were
there. -/
def fillPaths (tree : FileTree) (clock : Int) (invocation : Invocation) (template : Text)
    (options : FillOptions) : List Text :=
  let project := invocation.projectIn tree
  Settings.candidates.map (FilePath.joined project) ++ sourcePaths tree project ++
    options.dataFiles ++ template :: importPaths tree clock project template options

/-- The files that an invocation reads, or would read if they were there. -/
def Invocation.consulted (tree : FileTree) (clock : Int) (invocation : Invocation) : List Text :=
  match invocation.task with
  | none => []
  | some (.render template options _) => fillPaths tree clock invocation template options
  | some (.check template expected options _) =>
    fillPaths tree clock invocation template options ++ [expected]
  | some (.scan template _) => [template]

/-- The file that an invocation writes. -/
def Invocation.target? (invocation : Invocation) : Option Text :=
  match invocation.task with
  | some (.render _ _ output) => output
  | _ => none

/-- The paths that a run follows, to read a file or to write one. -/
def consulted (tree : FileTree) (clock : Int) (words : List Text) : List Text :=
  match Invocation.ofWords words with
  | .error _ => []
  | .ok invocation => invocation.consulted tree clock ++ invocation.target?.toList

end Stencil.Command
