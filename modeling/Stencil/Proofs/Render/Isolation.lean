import Stencil.Proofs.Render.Oblivious
import Stencil.Render.Session

/-!
# Renders are isolated from the past

Issues, variables and the snapshot outlive a render. A following render starts without
variables, adds its issues behind those that are there, and puts its snapshot in the place of
the old one: whatever was done with a session, only its settings, its directives and its
loader have an effect on it.

## Main definitions

* `Session.Operation`: what can be done with a session
* `Session.afterAll`: a session after a history of operations
* `Session.fresh`: a new session with the same settings, directives and loader
* `Session.conclude`: what a render with a given account leaves

## Main results

* `Session.fresh_afterAll`: the operations that set up a session decide how it is set up
* `Session.exists_account`: sessions that are set up alike give one account
* `Session.render_isolated`: a render after any history is that of a new session
-/

namespace Stencil.Session

/-! ## Operations -/

/-- What can be done with a session. -/
inductive Operation where
  /-- A render without variables at its start. -/
  | render (clock : Int) (text : Text) (values : Values)
  /-- A render with the variables of the render before. -/
  | renderKeeping (clock : Int) (text : Text) (values : Values)
  /-- The issues are forgotten. -/
  | clearIssues
  /-- The snapshot is read, and forgotten if `reset` is set. -/
  | takeSnapshot (reset : Bool)
  /-- A directive is registered. -/
  | register (name : Text) (directive : CustomDirective)
  /-- The settings are replaced. -/
  | configure (settings : Settings)
  /-- The loader is replaced. -/
  | useLoader (loader : Loader)

/-- Whether an operation changes how a session is set up. -/
def Operation.setsUp : Operation → Bool
  | register .. | configure .. | useLoader .. => true
  | _ => false

/-- The session after an operation. A render that fails leaves a session too. -/
def perform (session : Session) : Operation → Session
  | .render clock text values => (session.render clock text values).2
  | .renderKeeping clock text values => (session.renderKeeping clock text values).2
  | .clearIssues => session.clearIssues
  | .takeSnapshot reset => (session.takeSnapshot reset).2
  | .register name directive => session.register name directive
  | .configure settings => session.configure settings
  | .useLoader loader => { session with loader := loader }

/-- The session after a history of operations, the first one first. -/
def afterAll (session : Session) (history : List Operation) : Session :=
  history.foldl perform session

/-- A new session with the same settings, directives and loader. -/
def fresh (session : Session) : Session where
  settings := session.settings
  registry := session.registry
  loader := session.loader

/-! ## How a session is set up -/

/-- A render leaves a session set up as it was. -/
theorem fresh_renderKeeping (session : Session) (clock : Int) (text : Text) (values : Values) :
    (session.renderKeeping clock text values).2.fresh = session.fresh := by
  rw [renderKeeping]
  split
  next result progress _ => cases result <;> rfl

theorem fresh_perform (session : Session) (operation : Operation) :
    (session.perform operation).fresh =
      if operation.setsUp then session.fresh.perform operation else session.fresh := by
  cases operation with
  | render clock text values =>
    exact fresh_renderKeeping { session with globals := [] } clock text values
  | renderKeeping clock text values => exact fresh_renderKeeping session clock text values
  | clearIssues => rfl
  | takeSnapshot reset => cases reset <;> rfl
  | register name directive => rfl
  | configure settings => rfl
  | useLoader loader => rfl

/-- **How a session is set up** after a history is decided by the operations of the history
that set it up. -/
theorem fresh_afterAll (session : Session) (history : List Operation) :
    (session.afterAll history).fresh =
      session.fresh.afterAll (history.filter Operation.setsUp) := by
  induction history generalizing session with
  | nil => rfl
  | cons operation rest ih =>
    have later := ih (session.perform operation)
    rw [fresh_perform] at later
    rw [List.filter_cons]
    split at later
    · next sets => rw [if_pos sets]; exact later
    · next keeps => rw [if_neg keeps]; exact later

/-! ## The account of a session's render -/

/-- What a render of `text` with the given account leaves. -/
def conclude (session : Session) (text : Text) (values : Values) (account : Account Rendered) :
    Except Failure Text × Session :=
  (account.result.map Rendered.output,
    { session with
      globals := account.globals
      issues := session.issues ++ if session.settings.recordIssues then account.issues else []
      snapshot :=
        match account.result with
        | .ok rendered => some ⟨rendered.replacements, rendered.placeholders, values, text⟩
        | .error _ => session.snapshot })

/-- **Sessions that are set up alike** give one account of a render, whatever they have been
used for and whether they record issues or not. -/
theorem exists_account (session : Session) (clock : Int) (text : Text) (values : Values) :
    ∃ account : Account Rendered, ∀ other : Session,
      other.setup clock values =
          (session.setup clock values).recording other.settings.recordIssues →
        other.render clock text values = other.conclude text values account := by
  obtain ⟨account, ran⟩ := oblivious_render (session.setup clock values) text
  -- every render starts without variables, so the account at the empty scope is the only one
  refine ⟨account [], fun other alike => ?_⟩
  have run : (Stencil.render (other.setup clock values) text).run { issues := other.issues } =
      (account []).apply other.settings.recordIssues { issues := other.issues } := by
    rw [alike]
    exact ran _ _
  have start : ({ other with globals := [] } : Session).setup clock values =
      other.setup clock values := rfl
  rw [render, renderKeeping]
  simp only [start, run, Account.apply]
  rw [conclude]
  cases (account []).result <;> rfl

/-! ## Isolation -/

/-- **Renders are isolated from the past.** After any history a render gives the output or the
failure that it gives in a new session that was only set up, leaves the same variables and,
unless it fails, the same snapshot, and adds the same issues. Whether issues are recorded has
no effect on the output, the failure, the variables and the snapshot, and where they are not
recorded the issues stay as they were. -/
theorem render_isolated (session : Session) (history : List Operation) (clock : Int)
    (text : Text) (values : Values) :
    let now := session.afterAll history
    let new := session.fresh.afterAll (history.filter Operation.setsUp)
    let here := now.render clock text values
    let there := new.render clock text values
    (new = now.fresh ∧ here.1 = there.1 ∧ here.2.globals = there.2.globals ∧
      (here.2.snapshot = match here.1 with
        | .ok _ => there.2.snapshot
        | .error _ => now.snapshot) ∧
      here.2.issues = now.issues ++ there.2.issues) ∧
    (∀ record : Bool,
      let switched := (now.configure (now.settings.recording record)).render clock text values
      switched.1 = here.1 ∧ switched.2.globals = here.2.globals ∧
        switched.2.snapshot = here.2.snapshot) ∧
    ((now.configure (now.settings.recording false)).render clock text values).2.issues =
      now.issues := by
  intro now new here there
  have set_up : new = now.fresh := (fresh_afterAll session history).symm
  obtain ⟨account, concluded⟩ := exists_account now clock text values
  have here_eq : here = now.conclude text values account := concluded now rfl
  have there_eq : there = now.fresh.conclude text values account := by
    rw [← concluded now.fresh rfl, ← set_up]
  have switched_eq (record : Bool) :
      (now.configure (now.settings.recording record)).render clock text values =
        (now.configure (now.settings.recording record)).conclude text values account :=
    concluded _ rfl
  refine ⟨⟨set_up, ?_, ?_, ?_, ?_⟩, fun record => ?_, ?_⟩
  · rw [here_eq, there_eq]
    rfl
  · rw [here_eq, there_eq]
    rfl
  · rw [here_eq, there_eq]
    simp only [conclude]
    cases account.result <;> rfl
  · rw [here_eq, there_eq]
    rfl
  · rw [here_eq]
    simp only [switched_eq]
    exact ⟨rfl, rfl, rfl⟩
  · rw [switched_eq]
    exact List.append_nil _

end Stencil.Session
