import Stencil.Directive.Registry
import Stencil.Render.Issue

/-!
# Pipelines

A simple placeholder is a pipeline: a value, and directives that change it one after the
other. The value is a name, a path, or a directive that needs no value in front of it.

## Main definitions

* `Invocation`, `Invocation.ofText`: a directive with the text of its arguments
* `Pipeline.segments`: the parts of a pipeline
* `Pipeline.run`: the value of a pipeline, with the complaints about it
-/

namespace Stencil

/-- A directive as it is called. -/
structure Invocation where
  /-- The name of the directive. -/
  name : Text
  /-- The text of the arguments, if there are parentheses. -/
  arguments : Option Text
  deriving DecidableEq, Repr

namespace Invocation

/-- Reads a call. The first parenthesis opens the arguments, and one at the very end closes
them. -/
def ofText (segment : Text) : Invocation :=
  let segment := Text.trim segment
  match Text.cut? ['('] segment with
  | none => ⟨segment, none⟩
  | some (name, inner) =>
    ⟨Text.trim name, some (if inner.getLast? = some ')' then inner.dropLast else inner)⟩

/-- The parts of a text of arguments. Separators inside quotes do not count, and a blank
text has no parts. -/
def split (separator : Char) (arguments : Text) : List Text :=
  if Text.trim arguments = [] then []
  else (Text.splitOutside separator false arguments).map Text.trim

/-- The arguments for a directive that is always there. -/
def list (separator : Char) (invocation : Invocation) : Directive.Arguments :=
  match invocation.arguments with
  | none => []
  | some arguments => (split separator arguments).take Directive.maxArguments

end Invocation

/-- What a pipeline works with. -/
structure Pipeline extends Surroundings where
  /-- The registered directives. -/
  registry : Registry
  /-- The names a placeholder can see. -/
  env : Env

namespace Pipeline

/-- The parts of a pipeline. Bars inside parentheses or quotes belong to their part. -/
def segments (text : Text) : List Text :=
  (Text.splitOutside '|' true text).map Text.trim

/-- The value that a call gives, if its directive is known. -/
def call? (pipeline : Pipeline) (invocation : Invocation) (value : Value) : Option Value :=
  match Directive.ofName? invocation.name with
  | some directive =>
    some (directive.apply pipeline.toSurroundings value
      (invocation.list pipeline.settings.separator))
  | none =>
    (pipeline.registry.get? invocation.name).map fun directive =>
      directive value (invocation.arguments.getD [])

/-- The complaint about a first segment without a value. An empty one gives none. -/
def complaintAbout (segment : Text) (invocation : Invocation) : List Complaint :=
  if segment = [] then []
  else if invocation.arguments = none ∧ Path.isIdentifier segment then [.unknownName segment]
  else [.unknownDirective invocation.name]

/-- The value with which a pipeline starts: that of a name, of a path, or of a directive. -/
def start (pipeline : Pipeline) (segment : Text) : Option Value × List Complaint :=
  match pipeline.env.lookup.get? segment with
  | some value => (some value, [])
  | none =>
    if Path.isDotted segment then
      match Path.resolve? pipeline.env.lookup segment with
      | some value => (some value, [])
      | none => (none, [.unresolvedPath segment])
    else
      let invocation := Invocation.ofText segment
      match pipeline.call? invocation .null with
      | some value => (some value, [])
      | none => (none, complaintAbout segment invocation)

/-- One step: a directive changes the value, and an unknown one is passed over. -/
def step (pipeline : Pipeline) (value : Value) (segment : Text) : Value × List Complaint :=
  let invocation := Invocation.ofText segment
  match pipeline.call? invocation value with
  | some result => (result, [])
  | none => (value, [.unknownDirective invocation.name])

/-- The steps of a pipeline, one after the other. -/
def steps (pipeline : Pipeline) : Value → List Text → Value × List Complaint
  | value, [] => (value, [])
  | value, segment :: rest =>
    let (next, complaints) := pipeline.step value segment
    let (result, more) := pipeline.steps next rest
    (result, complaints ++ more)

/-- The value of a pipeline given by its segments. An object as the last value has no text. -/
def runSegments (pipeline : Pipeline) : List Text → Option Value × List Complaint
  | [] => (none, [])
  | first :: rest =>
    match pipeline.start first with
    | (none, complaints) => (none, complaints)
    | (some value, complaints) =>
      let (result, more) := pipeline.steps value rest
      if result.isObject then (none, complaints ++ more ++ [.objectAsText])
      else (some result, complaints ++ more)

/-- The value of a pipeline, and the complaints about it in the order in which they arise. -/
def run (pipeline : Pipeline) (text : Text) : Option Value × List Complaint :=
  pipeline.runSegments (segments text)

end Pipeline

end Stencil
