import Stencil.Proofs.Markup.Join
import Stencil.Proofs.Render.Isolation
import Stencil.Proofs.Render.Outcome
import Stencil.Proofs.Render.Sequence
import Stencil.Proofs.Render.Surrounded

/-!
# Templates compose

Two templates can be rendered as one: the second is rendered with the variables that the first one
has left. This needs that their spans are visited at their places in the whole text, that no span
occurs in both, so that none is filled for the other, and that no span stays.

## Main results

* `Replacements.substitute_append`: the substitution in two texts
* `Session.render_append`: a render of two templates, one behind the other
-/

namespace Stencil

open Markup (Layout NoTripleBrace Placeholder layout opening closing scan visited)

/-! ## Filled layouts -/

namespace Markup.Layout

variable {f g : Text → Text} (one other : Layout)

theorem filled_pushText (front : Text) : (one.pushText front).filled f = front ++ one.filled f := by
  obtain ⟨_ | ⟨⟨before, span⟩, rest⟩, tail⟩ := one <;> simp [pushText, filled]

theorem filled_join : (one.join other).filled f = one.filled f ++ other.filled f := by
  have behind := filled_pushText (f := f) other one.tail
  simp only [join, filled, List.flatMap_append, List.append_assoc] at behind ⊢
  rw [behind]

variable {one}

theorem filled_congr (same : ∀ span ∈ one.spans.map Prod.snd, f span.raw = g span.raw) :
    one.filled f = one.filled g := by
  have pieces : ∀ s ∈ one.spans, s.1 ++ f s.2.raw = s.1 ++ g s.2.raw := by
    intro s hs
    rw [same s.2 (List.mem_map_of_mem hs)]
  rw [filled, filled]
  exact congrArg (· ++ one.tail) (List.flatMap_congr pieces)

end Markup.Layout

/-! ## The substitution in two texts -/

namespace Replacements

variable {a b : Text} {replacements first second : Replacements} {fallback : Fallback}

/-- If all visited spans are replaced, the output is the filled layout. -/
theorem substitute_eq_filled_of_all (spans : OfSpans replacements) {text : Text}
    (calm : NoTripleBrace text)
    (all : ∀ span ∈ (layout text).spans.map Prod.snd, (replacements.lookup span.raw).isSome) :
    replacements.substitute text = (layout text).filled replacements.fill := by
  refine substitute_eq_filled spans calm ?_
  intro left span right visit absent
  have := all span visit.mem
  simp [absent] at this

theorem Covers.all_isSome {text : Text} (covers : Covers fallback (scan text) replacements)
    (given : fallback ≠ .keep) :
    ∀ span ∈ (layout text).spans.map Prod.snd, (replacements.lookup span.raw).isSome := by
  intro span mem
  obtain ⟨p, hp, same⟩ := Markup.exists_mem_scan mem
  rw [← same]
  exact covers.lookup_isSome given p hp

theorem fill_append_of_isSome {raw : Text} (own : (first.lookup raw).isSome) :
    (first ++ second).fill raw = first.fill raw := by
  obtain ⟨text, found⟩ := Option.isSome_iff_exists.mp own
  rw [fill, fill, List.lookup_append, found]
  rfl

theorem fill_append_of_none {raw : Text} (none : first.lookup raw = none) :
    (first ++ second).fill raw = second.fill raw := by
  rw [fill, fill, List.lookup_append, none]
  rfl

/-- **The substitution in two texts**, one behind the other, fills the spans of each with its own
replacements. -/
theorem substitute_append (calm : NoTripleBrace (a ++ b))
    (places :
      visited (a ++ b) = visited a ++ (visited b).map (Placeholder.shift (Text.byteLength a)))
    (distinct : ∀ s ∈ visited a, ∀ t ∈ visited b, s.raw ≠ t.raw) (given : fallback ≠ .keep)
    (covers : Covers fallback (scan a) first) (covers' : Covers fallback (scan b) second) :
    (first ++ second).substitute (a ++ b) = first.substitute a ++ second.substitute b := by
  have own := covers.all_isSome given
  have own' := covers'.all_isSome given
  have foreign : ∀ span ∈ (layout b).spans.map Prod.snd, first.lookup span.raw = none := by
    intro span mem
    refine covers.lookup_eq_none fun p hp => ?_
    exact Markup.raw_ne_of_visited distinct p.toSpan (Markup.mem_layout_of_mem_scan hp) span mem
  have spans : OfSpans (first ++ second) := by
    intro r hr
    rcases List.mem_append.mp hr with hr | hr
    · exact covers.ofSpans r hr
    · exact covers'.ofSpans r hr
  have joined := Markup.layout_append_of_visited places
  have all : ∀ span ∈ (layout (a ++ b)).spans.map Prod.snd,
      ((first ++ second).lookup span.raw).isSome := by
    intro span mem
    rw [joined, Layout.map_snd_spans_join, List.mem_append] at mem
    rw [List.lookup_append, Option.isSome_or, Bool.or_eq_true]
    exact mem.imp (own span) (own' span)
  rw [substitute_eq_filled_of_all spans calm all, joined, Layout.filled_join,
    substitute_eq_filled_of_all covers.ofSpans calm.of_append_left own,
    substitute_eq_filled_of_all covers'.ofSpans calm.of_append own',
    Layout.filled_congr fun span mem => fill_append_of_isSome (own span mem),
    Layout.filled_congr fun span mem => fill_append_of_none (foreign span mem)]

end Replacements

/-! ## Renders by the accounts of their placeholders -/

/-- The account of the placeholders of two texts, one behind the other. -/
def Account.inOrder (one other : Scope → Account Replacements) (globals : Scope) :
    Account Replacements :=
  (one globals).bind fun earlier globals =>
    (other globals).bind fun later globals => .quiet (.ok (earlier ++ later)) globals

namespace Account

variable {one other : Scope → Account Replacements} {globals : Scope}

theorem inOrder_of_error {failure : Failure} (h : (one globals).result = .error failure) :
    inOrder one other globals = { one globals with result := .error failure } := by
  rw [inOrder, bind, h]

theorem inOrder_of_ok {earlier : Replacements} (h : (one globals).result = .ok earlier) :
    let first := one globals
    let second := other first.globals
    inOrder one other globals =
      { result := second.result.map fun later => earlier ++ later
        globals := second.globals
        issues := first.issues ++ second.issues
        trail := second.trail ++ first.trail } := by
  intro first second
  rw [inOrder, bind, h]
  change (let later := second.bind _; Account.mk later.result later.globals
    (first.issues ++ later.issues) (later.trail ++ first.trail)) = _
  cases result : second.result with
  | error failure =>
    rw [bind, result]
    rfl
  | ok later =>
    rw [bind, result]
    simp [quiet, Except.map]

end Account

namespace Fill

variable {setup : Setup} {nested : Nested} {locals : Scope}

/-- `account` tells what the placeholders do. -/
def AccountsFor (setup : Setup) (nested : Nested) (locals : Scope) (ps : List Placeholder)
    (account : Scope → Account Replacements) : Prop :=
  ∀ start, (placeholders setup nested locals ps).run start =
    (account start.globals).apply setup.settings.recordIssues start

theorem AccountsFor.append {ps qs : List Placeholder} {one other : Scope → Account Replacements}
    (h : AccountsFor setup nested locals ps one) (h' : AccountsFor setup nested locals qs other) :
    AccountsFor setup nested locals (ps ++ qs) (Account.inOrder one other) := by
  intro start
  rw [placeholders_append, Account.inOrder, Account.apply_bind, Render.run_bind, h]
  rcases (one start.globals).apply setup.settings.recordIssues start with
    ⟨failure | earlier, middle⟩
  · rfl -- a failure in front leaves the other placeholders as they are
  · simp only [Account.apply_bind, Render.run_bind, h' middle]
    rcases (other middle.globals).apply setup.settings.recordIssues middle with
      ⟨failure | later, stop⟩
    · rfl
    · simp only [Account.apply_quiet, Render.run_pure]

theorem AccountsFor.covers {ps : List Placeholder} {account : Scope → Account Replacements}
    (h : AccountsFor setup nested locals ps account) {globals : Scope} {replacements : Replacements}
    (result : (account globals).result = .ok replacements) :
    Replacements.Covers setup.settings.fallback ps replacements := by
  have ran := h { globals }
  rw [Account.apply] at ran
  exact placeholders_returns setup nested locals ps _ _ _ (ran.trans (congrArg (·, _) result))

theorem exists_accountsFor_scan (setup : Setup) (levels : Nat) (locals : Scope) (text : Text) :
    ∃ account, AccountsFor setup (renderWithin setup levels) locals (scan text) account := by
  obtain ⟨account, ran⟩ := oblivious_placeholders setup locals
    (oblivious_renderWithin setup levels) text
  exact ⟨account, ran setup.settings.recordIssues⟩

end Fill

namespace Session

/-- A render leaves a session set up as it was. -/
theorem setup_render (session : Session) (clock : Int) (text : Text) (values : Values) :
    (session.render clock text values).2.setup clock values = session.setup clock values := by
  have fresh := fresh_renderKeeping { session with globals := [] } clock text values
  have set_up := congrArg (fun other : Session => other.setup clock values) fresh
  exact set_up

/-- `outcome` is that of a render of `text` whose placeholders do what `told` says. -/
structure Follows (outcome : Except Failure Text × Session) (text : Text) (issues : List Issue)
    (record : Bool) (told : Account Replacements) : Prop where
  result : outcome.1 = told.result.map fun replacements => replacements.substitute text
  globals : outcome.2.globals = told.globals
  issues : outcome.2.issues = issues ++ if record then told.issues else []

section Follows

variable {outcome : Except Failure Text × Session} {text : Text} {issues : List Issue}
  {record : Bool} {told : Account Replacements} (h : Follows outcome text issues record told)
include h

theorem Follows.of_error {failure : Failure} (failed : outcome.1 = .error failure) :
    told.result = .error failure := by
  have same := h.result.symm.trans failed
  cases result : told.result with
  | error other => simpa [result, Except.map] using same
  | ok replacements =>
    rw [result] at same
    cases same

theorem Follows.of_ok {output : Text} (success : outcome.1 = .ok output) :
    ∃ replacements, told.result = .ok replacements ∧ replacements.substitute text = output := by
  have same := h.result.symm.trans success
  cases result : told.result with
  | error failure =>
    rw [result] at same
    cases same
  | ok replacements => simpa [result, Except.map] using same

end Follows

/-- **A render by the account of its placeholders.** -/
theorem follows_renderKeeping (session : Session) {setup : Setup} {clock : Int} {values : Values}
    (same : session.setup clock values = setup) {text : Text}
    {account : Scope → Account Replacements}
    (h : Fill.AccountsFor setup (renderWithin setup setup.settings.maxDepth) [] (scan text)
      account) :
    Follows (session.renderKeeping clock text values) text session.issues
      setup.settings.recordIssues (account session.globals) := by
  have ran : (Stencil.render setup text).run
      { globals := session.globals, issues := session.issues } = _ :=
    run_renderWithin_succ setup setup.settings.maxDepth [] text _
  rw [Fill.resume, Render.run_bind, h, Account.apply] at ran
  simp only at ran
  rw [renderKeeping_eq_finish, same, ran]
  cases result : (account session.globals).result with
  | error failure => exact ⟨by rw [result]; rfl, rfl, rfl⟩
  | ok replacements => exact ⟨by rw [result]; rfl, rfl, rfl⟩

variable {a b : Text}

/-- **Templates compose.** If the spans of two texts are visited at their places in the whole text,
none of them occurs in both, there is a fallback for those without a value, and no three opening
braces stand in a row, then a render of the whole text does what a render of the first and, with the
variables that it leaves, one of the second do. The outputs and the issues stand one behind the
other, and a failure of the first render is that of the whole. -/
theorem render_append (calm : NoTripleBrace (a ++ b))
    (places :
      visited (a ++ b) = visited a ++ (visited b).map (Placeholder.shift (Text.byteLength a)))
    (distinct : ∀ s ∈ visited a, ∀ t ∈ visited b, s.raw ≠ t.raw) (session : Session)
    (given : session.settings.fallback ≠ .keep) (clock : Int) (values : Values) :
    let first := session.render clock a values
    let second := first.2.renderKeeping clock b values
    let whole := session.render clock (a ++ b) values
    (∀ failure, first.1 = .error failure →
      whole.1 = .error failure ∧ whole.2.globals = first.2.globals ∧
        whole.2.issues = first.2.issues) ∧
    ∀ output, first.1 = .ok output →
      whole.1 = second.1.map (fun behind => output ++ behind) ∧
        whole.2.globals = second.2.globals ∧
        ∃ earlier later, first.2.issues = session.issues ++ earlier ∧
          second.2.issues = first.2.issues ++ later ∧
          whole.2.issues = session.issues ++ (earlier ++ later) := by
  intro first second whole
  let setup := session.setup clock values
  let nested := renderWithin setup setup.settings.maxDepth
  let record := setup.settings.recordIssues
  obtain ⟨one, accounts⟩ := Fill.exists_accountsFor_scan setup setup.settings.maxDepth [] a
  obtain ⟨other, accounts'⟩ := Fill.exists_accountsFor_scan setup setup.settings.maxDepth [] b
  have accounts_whole :
      Fill.AccountsFor setup nested [] (scan (a ++ b)) (Account.inOrder one other) := by
    -- what a placeholder does is independent of its place, so those of the second text may move
    intro start
    have both := accounts.append accounts' start
    rw [Fill.placeholders_append] at both
    rw [Markup.scan_append_of_visited places distinct, Fill.placeholders_append,
      Fill.placeholders_map_shift]
    exact both
  let empty : Session := { session with globals := [] }
  have follows : Follows first a session.issues record (one []) :=
    empty.follows_renderKeeping rfl accounts
  have follows' : Follows second b first.2.issues record (other (one []).globals) := by
    rw [← follows.globals]
    exact first.2.follows_renderKeeping (session.setup_render clock a values) accounts'
  have follows_whole :
      Follows whole (a ++ b) session.issues record (Account.inOrder one other []) :=
    empty.follows_renderKeeping rfl accounts_whole
  constructor
  · intro failure failed
    rw [Account.inOrder_of_error (follows.of_error failed)] at follows_whole
    refine ⟨follows_whole.result, ?_, ?_⟩
    · rw [follows_whole.globals, follows.globals]
    · rw [follows_whole.issues, follows.issues]
  · intro output success
    obtain ⟨earlier, result, written⟩ := follows.of_ok success
    rw [Account.inOrder_of_ok result] at follows_whole
    refine ⟨?_, ?_, _, _, follows.issues, follows'.issues, ?_⟩
    · rw [follows_whole.result, follows'.result]
      cases behind : (other (one []).globals).result with
      | error failure => rfl
      | ok later =>
        have split := Replacements.substitute_append calm places distinct given
          (accounts.covers result) (accounts'.covers behind)
        simp only [Except.map, split, written]
    · rw [follows_whole.globals, follows'.globals]
    · rw [follows_whole.issues]
      cases record <;> simp

/-- The first text sets a variable that the second one reads. A name without a value is filled by
the fallback. -/
theorem render_append_of_assignment :
    let tag (inner : String) : Text := Markup.opening ++ inner.toList ++ Markup.closing
    let session : Session :=
      { settings := { fallback := .text "?".toList }, loader := Loader.ofTemplates [] }
    let a := "n is ".toList ++ tag " set n = 1 "
    let b := tag " n " ++ " of ".toList ++ tag " m "
    let first := session.render 0 a []
    let second := first.2.renderKeeping 0 b []
    let whole := session.render 0 (a ++ b) []
    first.1 = .ok "n is ".toList ∧ second.1 = .ok "1 of ?".toList ∧
      whole.1 = .ok "n is 1 of ?".toList ∧ whole.2.globals = second.2.globals := by
  intro tag session a b first second whole
  have first_eq : first.1 = .ok "n is ".toList := by decide +kernel
  have second_eq : second.1 = .ok "1 of ?".toList := by decide +kernel
  obtain ⟨-, composed⟩ := render_append (a := a) (b := b) (by decide +kernel) (by decide +kernel)
    (by decide +kernel) session (by decide) 0 []
  obtain ⟨output, globals, -⟩ := composed _ first_eq
  refine ⟨first_eq, second_eq, output.trans ?_, globals⟩
  change second.1.map _ = _
  rw [second_eq]
  rfl

end Session

end Stencil
