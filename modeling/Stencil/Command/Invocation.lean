import Stencil.Command.Arguments

/-!
# Invocations

What the arguments of the program ask for: to fill a template, to compare a filled template
with a file, or to list the placeholders of a template.

## Main definitions

* `FillOptions`: how a template is filled
* `Task`: what is to be done, and with which files
* `CommandRule`, `commandRules`: the commands and the tasks that they name
* `Invocation`, `Invocation.ofWords`: a task with what goes for all tasks
* `usageText`, `versionText`: what is printed instead if it is asked for
-/

namespace Stencil.Command

/-! ### Tasks -/

/-- How a template is filled. -/
structure FillOptions where
  /-- The data files, whose values come after those of the settings. -/
  dataFiles : List Text := []
  /-- The directory in which imported templates lie. -/
  templateRoot : Option Text := none
  /-- The text that stands for placeholders without a value; if it is empty, they are
  removed. -/
  replacement : Option Text := none
  /-- The character between the arguments of a directive. -/
  separator : Option Char := none
  deriving DecidableEq, Repr

/-- How placeholders are listed. -/
inductive ListFormat where
  /-- A line for each placeholder. -/
  | text
  /-- A JSON document. -/
  | json
  deriving DecidableEq, Repr

/-- What is to be done. -/
inductive Task where
  /-- A template is filled, and the result printed or written to a file. -/
  | render (template : Text) (options : FillOptions) (output : Option Text)
  /-- A template is filled, and the result compared with a file. -/
  | check (template expected : Text) (options : FillOptions) (showChanges : Bool)
  /-- The placeholders of a template are listed. -/
  | scan (template : Text) (format : ListFormat)
  deriving DecidableEq, Repr

/-- What the arguments ask for. -/
structure Invocation where
  /-- The directory of the project, if it is not the working directory. -/
  project : Option Text := none
  /-- Whether more is said than is needed. -/
  verbose : Bool := false
  /-- The task, if there is one. -/
  task : Option Task := none
  deriving DecidableEq, Repr

/-! ### Options -/

/-- The names of the list formats. -/
def listFormats : List (Text × ListFormat) :=
  [("text", .text), ("json", .json)]

/-- Whether a value can be a path. -/
def isPath (value : Text) : Bool :=
  value != []

/-- The options of all levels. -/
def commonOptions : List OptionRule :=
  [{ name := "path", letter := 'p', arity := .one, accepts := isPath },
    { name := "verbose", letter := 'v' },
    { name := "no-color" },
    { name := "help", letter := 'h' }]

/-- The options of the commands that fill a template. -/
def fillOptions : List OptionRule :=
  [{ name := "data", letter := 'd', arity := .one, repeatable := true, accepts := isPath },
    { name := "root", arity := .one, accepts := isPath },
    { name := "force-replace", arity := .atMostOne },
    { name := "separator", arity := .one, accepts := fun value => value.length == 1 }]

/-! ### Commands -/

/-- How a template is filled, as the options say. -/
def FillOptions.ofReading (reading : Reading) : FillOptions where
  dataFiles := reading.values "data"
  templateRoot := reading.value? "root"
  replacement :=
    if reading.has "force-replace" then some ((reading.value? "force-replace").getD []) else none
  separator := (reading.value? "separator").bind List.head?

/-- A command: what is understood behind its name, and the task that is asked for. -/
structure CommandRule where
  /-- The name. -/
  name : Text
  /-- What is understood behind the name. -/
  level : Level
  /-- The task. -/
  task? : Reading → Option Task

/-- Fills a template. -/
def renderCommand : CommandRule where
  name := "render"
  level :=
    { options :=
        { name := "output", letter := 'o', arity := .one, accepts := isPath } ::
          (fillOptions ++ commonOptions)
      operands := ["<TEMPLATE>"] }
  task? := fun reading =>
    match reading.operands with
    | [template] => some (.render template (.ofReading reading) (reading.value? "output"))
    | _ => none

/-- Fills a template and compares the result. -/
def checkCommand : CommandRule where
  name := "check"
  level :=
    { options := { name := "diff" } :: (fillOptions ++ commonOptions)
      operands := ["<TEMPLATE>", "<EXPECTED>"] }
  task? := fun reading =>
    match reading.operands with
    | [template, expected] =>
      some (.check template expected (.ofReading reading) (reading.has "diff"))
    | _ => none

/-- Lists placeholders. -/
def scanCommand : CommandRule where
  name := "scan"
  level :=
    { options :=
        { name := "format", arity := .one,
          accepts := fun value => (listFormats.lookup value).isSome } :: commonOptions
      operands := ["<TEMPLATE>"] }
  task? := fun reading =>
    match reading.operands with
    | [template] =>
      let format? := (reading.value? "format").bind fun name => listFormats.lookup name
      some (.scan template (format?.getD .text))
    | _ => none

/-- The commands that have a task. -/
def commandRules : List CommandRule :=
  [renderCommand, checkCommand, scanCommand]

/-- What is understood in front of a command. -/
def programLevel : Level where
  options := { name := "version", letter := 'V' } :: commonOptions
  commands := commandRules.map CommandRule.name ++ ["help".toList]

/-! ### Reading -/

/-- Why reading ends behind `help`: one command may be named there. -/
def helpOn (words : List Text) : Stop :=
  match words with
  | [] => .help
  | [command] =>
    if programLevel.commands.contains command then .help else .fault (.unknownCommand command)
  | _ :: word :: _ => .fault (.unknownCommand word)

/-- What words ask for. Common options may stand in front of a command and behind it; behind
it they count more. -/
def Invocation.ofWords (words : List Text) : Except Stop Invocation := do
  let outer ← programLevel.read words
  match outer.command with
  | none => return ⟨outer.value? "path", outer.has "verbose", none⟩
  | some (command, rest) =>
    match commandRules.find? fun rule => rule.name == command with
    | none => throw (helpOn rest)
    | some rule =>
      let inner ← rule.level.read rest
      return {
        project := (inner.value? "path").or (outer.value? "path")
        verbose := outer.has "verbose" || inner.has "verbose"
        task := rule.task? inner }

/-! ### Texts -/

/-- What is printed if help is asked for. -/
def usageText : Text :=
  Text.join "\n"
    ["Fill document templates with data.", "",
      "Usage: docfill [OPTIONS] [COMMAND]", "",
      "Commands:",
      "  render <TEMPLATE>             Render a template and print the result",
      "  check <TEMPLATE> <EXPECTED>   Render a template and compare it with a file",
      "  scan <TEMPLATE>               List the placeholders found in a template",
      "  help                          Print this message", "",
      "Options of `render` and `check`:",
      "  -d, --data <DATA>                      Data file whose keys become values",
      "      --root <ROOT>                      Directory that imports stay inside",
      "      --force-replace [<FORCE_REPLACE>]  Replace unresolved placeholders",
      "      --separator <SEPARATOR>            Separator between directive arguments",
      "  -o, --output <OUTPUT>                  Write the result to a file (`render`)",
      "      --diff                             Show what differs (`check`)", "",
      "Options of `scan`:",
      "      --format <FORMAT>                  `text` or `json`", "",
      "Options:",
      "  -p, --path <PATH>  Path to the project root",
      "  -v, --verbose      Enable verbose output",
      "      --no-color     Disable colored output",
      "  -h, --help         Print help",
      "  -V, --version      Print version", ""]

/-- What is printed if the version is asked for. -/
def versionText : Text :=
  "docfill_cli 0.1.0\n"

end Stencil.Command
