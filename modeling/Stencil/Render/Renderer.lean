import Stencil.Markup.Placeholder
import Stencil.Expr.Eval
import Stencil.Directive.Pipeline
import Stencil.Render.Loader
import Stencil.Render.Substitution

/-!
# Rendering

A template is rendered by filling its placeholders in order of their first occurrence and
replacing each by its text. Blocks and imports render further texts one level deeper. What
is set stays set for everything that follows.

## Main definitions

* `Setup`: what stays the same during a render
* `Progress`: what changes: the variables, the issues, and the trail of events
* `Fill.simple`, `Fill.assignment`, `Fill.conditional`, `Fill.loop`, `Fill.inclusion`: the
  text of one placeholder, given how a nested text is rendered
* `renderWithin`: a render with a number of levels that may be entered
* `render`: a render of a whole template
-/

namespace Stencil

/-! ### The state of a render -/

/-- What stays the same during a render. -/
structure Setup extends Surroundings where
  /-- The registered directives. -/
  registry : Registry
  /-- Where imported templates come from. -/
  loader : Loader

/-- What a render does on its way. -/
inductive RenderEvent where
  /-- A text is searched for placeholders. -/
  | scanned (text : Text)
  /-- An import is evaluated. -/
  | importing (target : Text)
  /-- A loader is asked for a template. -/
  | loading (path : Text)
  /-- A condition is tested. -/
  | tested (condition : Text)
  deriving DecidableEq, Repr

/-- What changes during a render. -/
structure Progress where
  /-- The variables that were set. -/
  globals : Scope := []
  /-- The issues, in the order in which they arose. -/
  issues : List Issue := []
  /-- The events, the latest first. -/
  trail : List RenderEvent := []

/-- A part of a render: it changes the progress and may fail. The progress made before a
failure is kept. -/
abbrev Render := ExceptT Failure (StateM Progress)

namespace Render

/-- Takes note of an event. -/
def note (event : RenderEvent) : Render Unit :=
  modify fun progress => { progress with trail := event :: progress.trail }

/-- Records complaints about a placeholder, if issues are recorded. -/
def complain (setup : Setup) (placeholder : Text) (complaints : List Complaint) : Render Unit :=
  if setup.settings.recordIssues then
    modify fun progress =>
      { progress with issues := progress.issues ++ complaints.map (Issue.mk placeholder) }
  else return

/-- Sets a variable. -/
def assign (name : Text) (value : Value) : Render Unit :=
  modify fun progress => { progress with globals := progress.globals.insert name value }

/-- The names that a placeholder can see now. -/
def env (setup : Setup) (locals : Scope) : Render Env := do
  return ⟨locals, (← get).globals, setup.values⟩

end Render

/-- A rendered text. -/
structure Rendered where
  /-- The text with its placeholders replaced. -/
  output : Text
  /-- The replacements, in the order of the placeholders. -/
  replacements : Replacements
  /-- The placeholders. -/
  placeholders : List Markup.Placeholder
  deriving DecidableEq, Repr

/-- How a text inside a template is rendered, with given bindings of the loops around it. -/
abbrev Nested := (locals : Scope) → (text : Text) → Render Rendered

namespace Fill

open Markup (Placeholder Tag)

/-! ### Values and assignments -/

/-- The text of a pipeline. -/
def simple (setup : Setup) (locals : Scope) (directive : Text) : Render (Option Text) := do
  let env ← Render.env setup locals
  let (value?, complaints) := Pipeline.run ⟨setup.toSurroundings, setup.registry, env⟩ directive
  Render.complain setup directive complaints
  return value?.map Value.display

/-- The name and the expression of an assignment. -/
def assignmentParts? (directive : Text) : Option (Text × Text) :=
  ((Text.cut? ['='] (Markup.splitKeyword directive).2).map fun (name, source) =>
    (Text.trim name, Text.trim source)).filter fun (name, _) => Path.isIdentifier name

/-- Sets a variable; the text is empty. A name without any value is null while the
expression is evaluated, and stays null if that fails. -/
def assignment (setup : Setup) (locals : Scope) (directive : Text) : Render (Option Text) := do
  match assignmentParts? directive with
  | none => Render.complain setup directive [.malformedAssignment]
  | some (name, source) =>
    if ((← Render.env setup locals).lookup.get? name).isNone then Render.assign name .null
    match Assignment.value (← Render.env setup locals).lookup source with
    | .ok value => Render.assign name value
    | .error e => Render.complain setup directive [.failedAssignment e]
  return some []

/-! ### Conditions -/

/-- Whether a tag starts or ends a branch of a conditional block. -/
def isBranchTag (tag : Tag) : Bool :=
  ["if", "elseif", "else", "endif"].any fun keyword => keyword.toList == tag.keyword

/-- Whether the branch behind a tag is taken. -/
def isTaken (setup : Setup) (locals : Scope) (tag : Tag) : Render (Except ExprError Bool) := do
  if tag.keyword = "else" then return .ok true
  Render.note (.tested tag.rest)
  return Condition.holds (← Render.env setup locals).lookup tag.rest

/-- The text of the first branch that is taken, or the empty text. A branch runs from its
tag up to the next one. A condition that fails leaves the block open. -/
def branches (setup : Setup) (nested : Nested) (locals : Scope) (directive raw : Text) :
    List Tag → Render (Option Text)
  | tag :: next :: rest => do
    if tag.keyword = "endif" then return some []
    match ← isTaken setup locals tag with
    | .error e =>
      Render.complain setup directive [.failedCondition tag.rest e]
      return none
    | .ok true => return some (← nested locals (raw.slice tag.stop next.start)).output
    | .ok false => branches setup nested locals directive raw (next :: rest)
  | _ => return some []

/-- The text of a conditional block. -/
def conditional (setup : Setup) (nested : Nested) (locals : Scope) (directive raw : Text) :
    Render (Option Text) :=
  branches setup nested locals directive raw ((Markup.tags raw).filter isBranchTag)

/-! ### Loops -/

/-- The name of the element and the list of a loop. -/
def loopHead? (directive : Text) : Option (Text × Text) :=
  match Text.words (Markup.splitKeyword directive).2 with
  | [item, keyword, list] =>
    if Text.sameIgnoringCase keyword "in" && Path.isIdentifier item &&
        (Path.isIdentifier list || Path.isDotted list) then some (item, list)
    else none
  | _ => none

/-- Whether a tag starts or ends a part of a loop. -/
def isLoopTag (tag : Tag) : Bool :=
  ["for", "elsefor", "endfor"].any fun keyword => keyword.toList == tag.keyword

/-- The parts of a loop: what is repeated, and what stands for it if there is nothing to
repeat it for. -/
def loopParts? (raw : Text) : Option (Text × Option Text) :=
  match (Markup.tags raw).filter isLoopTag with
  | start :: next :: rest =>
    let otherwise :=
      match rest with
      | stop :: _ =>
        if next.keyword = "elsefor" then some (raw.slice next.stop stop.start) else none
      | [] => none
    some (raw.slice start.stop next.start, otherwise)
  | _ => none

/-- The values that a loop runs over. -/
def loopItems : Option Value → List Value
  | some (.list items) => items
  | some (.object _ fields) => fields.map Prod.snd
  | _ => []

/-- What a loop tells about its present round. -/
def loopInfo (index length : Nat) : Value :=
  .object none
    [("index".toList, .number (Number.ofNat (index + 1))),
      ("index0".toList, .number (Number.ofNat index)),
      ("length".toList, .number (Number.ofNat length)),
      ("first".toList, .bool (index == 0)),
      ("last".toList, .bool (index + 1 == length))]

/-- The bindings for one round of a loop. -/
def loopLocals (locals : Scope) (item : Text) (value : Value) (index length : Nat) : Scope :=
  (locals.insert item value).insert "loop" (loopInfo index length)

/-- The texts of the rounds of a loop, from a given round on. -/
def rounds (nested : Nested) (locals : Scope) (item body : Text) (length : Nat) :
    (index : Nat) → List Value → Render (List Text)
  | _, [] => return []
  | index, value :: rest => do
    let rendered ← nested (loopLocals locals item value index length) body
    let outputs ← rounds nested locals item body length (index + 1) rest
    return rendered.output :: outputs

/-- The text of a loop: one line for every value, without blanks at its ends. -/
def loop (setup : Setup) (nested : Nested) (locals : Scope) (directive raw : Text) :
    Render (Option Text) := do
  match loopHead? directive with
  | none =>
    Render.complain setup directive [.malformedLoop]
    return none
  | some (item, list) =>
    match loopParts? raw with
    | none => return none
    | some (body, otherwise) =>
      match loopItems (Path.resolve? (← Render.env setup locals).lookup list) with
      | [] =>
        match otherwise with
        | some text => return some (← nested locals text).output
        | none => return some []
      | items =>
        let outputs ← rounds nested locals item body items.length 0 items
        return some (Text.trim (Text.join "\n" outputs))

/-! ### Imports -/

/-- The path that an import names, without quotes around it. -/
def importTarget (directive : Text) : Text :=
  Text.unquote (Text.trim (Markup.splitKeyword directive).2)

/-- The text of an imported template. -/
def inclusion (setup : Setup) (nested : Nested) (locals : Scope) (directive : Text) :
    Render (Option Text) := do
  let target := importTarget directive
  Render.note (.importing target)
  match setup.settings.templateRoot with
  | none => throw (.noTemplateRoot target)
  | some root =>
    let path ← confinedImport root target
    Render.note (.loading path)
    let text ← setup.loader root path
    return some (← nested locals text).output

/-! ### All placeholders -/

/-- The text of a placeholder; none leaves it open. -/
def placeholder (setup : Setup) (nested : Nested) (locals : Scope) (placeholder : Placeholder) :
    Render (Option Text) :=
  let directive := placeholder.directive
  match placeholder.kind with
  | .simple => simple setup locals directive
  | .assignment => assignment setup locals directive
  | .conditional => conditional setup nested locals directive placeholder.raw
  | .loop => loop setup nested locals directive placeholder.raw
  | .inclusion => inclusion setup nested locals directive

/-- The replacements for placeholders, filled one after the other. -/
def placeholders (setup : Setup) (nested : Nested) (locals : Scope) :
    List Placeholder → Render Replacements
  | [] => return []
  | first :: rest => do
    let text? ← placeholder setup nested locals first
    let replacements ← placeholders setup nested locals rest
    match text?.or setup.settings.fallback.replacement? with
    | some text => return (first.raw, text) :: replacements
    | none => return replacements

end Fill

/-! ### Renders -/

/-- Renders a text inside loops with given bindings; `levels` counts the levels of nesting
that may be entered, this one included. -/
def renderWithin (setup : Setup) : (levels : Nat) → Nested
  | 0, _, _ => throw (.tooDeep setup.settings.maxDepth)
  | levels + 1, locals, text => do
    Render.note (.scanned text)
    let placeholders := Markup.scan text
    let replacements ← Fill.placeholders setup (renderWithin setup levels) locals placeholders
    return ⟨replacements.substitute text, replacements, placeholders⟩

/-- Renders a template. Its own text is at level zero. -/
def render (setup : Setup) (text : Text) : Render Rendered :=
  renderWithin setup (setup.settings.maxDepth + 1) [] text

end Stencil
