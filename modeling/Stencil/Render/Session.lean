import Stencil.Render.Renderer
import Stencil.Value.Supplied

/-!
# Sessions

A session keeps what outlives a single render: the settings, the registered directives,
the loader, the issues since they were last cleared, the variables of the last render, and
a snapshot of the last render that did not fail.

## Main definitions

* `Snapshot`: what is kept of a render
* `Session`: the state between renders
* `Session.render`, `Session.renderKeeping`: renders that start without variables, or with
  those of the render before
* `Session.clearIssues`, `Session.takeSnapshot`, `Session.register`, `Session.configure`:
  what can be done between renders
-/

namespace Stencil

/-- What is kept of a render. -/
structure Snapshot where
  /-- The replacements, in the order of the placeholders. -/
  replacements : Replacements
  /-- The placeholders of the template. -/
  placeholders : List Markup.Placeholder
  /-- The supplied values. -/
  values : Values
  /-- The template. -/
  text : Text

/-- What outlives a single render. -/
structure Session where
  /-- The settings. -/
  settings : Settings := {}
  /-- The registered directives. -/
  registry : Registry := {}
  /-- Where imported templates come from. -/
  loader : Loader
  /-- The issues since they were last cleared. -/
  issues : List Issue := []
  /-- The variables that were set. -/
  globals : Scope := []
  /-- The last render that did not fail. -/
  snapshot : Option Snapshot := none

namespace Session

/-- What stays the same during a render at a given moment. -/
def setup (session : Session) (clock : Int) (values : Values) : Setup where
  settings := session.settings
  values := Scope.ofValues values
  clock := clock
  registry := session.registry
  loader := session.loader

/-- Renders a template with the variables of the render before. -/
def renderKeeping (session : Session) (clock : Int) (text : Text) (values : Values) :
    Except Failure Text × Session :=
  let start : Progress := { globals := session.globals, issues := session.issues }
  let (result, progress) := (Stencil.render (session.setup clock values) text).run start
  let session := { session with globals := progress.globals, issues := progress.issues }
  match result with
  | .ok rendered =>
    let snapshot := ⟨rendered.replacements, rendered.placeholders, values, text⟩
    (.ok rendered.output, { session with snapshot := some snapshot })
  | .error failure => (.error failure, session)

/-- Renders a template without variables at its start. -/
def render (session : Session) (clock : Int) (text : Text) (values : Values) :
    Except Failure Text × Session :=
  renderKeeping { session with globals := [] } clock text values

/-- Forgets the issues. -/
def clearIssues (session : Session) : Session :=
  { session with issues := [] }

/-- The snapshot, together with the session; with `reset` the session forgets it. -/
def takeSnapshot (session : Session) (reset : Bool) : Option Snapshot × Session :=
  (session.snapshot, if reset then { session with snapshot := none } else session)

/-- Registers a directive. -/
def register (session : Session) (name : Text) (directive : CustomDirective) : Session :=
  { session with registry := session.registry.register name directive }

/-- Replaces the settings. -/
def configure (session : Session) (settings : Settings) : Session :=
  { session with settings := settings }

end Session

end Stencil
