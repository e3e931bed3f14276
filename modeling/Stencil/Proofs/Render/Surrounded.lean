import Stencil.Proofs.Markup.Surrounded
import Stencil.Proofs.Render.Oblivious
import Stencil.Proofs.Render.Outcome

/-!
# Renders of texts in plain surroundings

Text without opening braces in front of a template, and text without closing braces behind it,
are copied to the output and change nothing else: every search of a render finds in the
template what it finds there without them.

## Main definitions

* `Snapshot.surround`: the snapshot of a render of the text in surroundings

## Main results

* `Replacements.substitute_surrounded`: a substitution copies plain surroundings
* `Fill.placeholders_map_shift`: placeholders are filled without regard to their offsets
* `Session.render_surrounded`: a render of a text in plain surroundings
-/

namespace Stencil

open Markup Piece

/-! ## Substitution -/

namespace Replacements

variable {replacements : Replacements} {front behind text : Text}

/-- What is to be replaced starts with an opening brace, so not in text without one. -/
theorem pass_append_left (spans : OfSpans replacements) (plain : '{' ∉ front) (text : Text) :
    replacements.pass (front ++ text) = front.map kept ++ replacements.pass text := by
  refine pass_append fun u v same hv => longest?_eq_none_iff.mpr fun r hr start => ?_
  obtain ⟨span, inner, body, delimits, raw⟩ := spans r hr
  obtain ⟨c, v, rfl⟩ := List.exists_cons_of_ne_nil hv
  obtain ⟨extra, start⟩ := start
  have head := congrArg List.head? start
  rw [← raw, List.head?_append, delimits.head?] at head
  simp only [Option.some_or, List.cons_append, List.head?_cons, Option.some.injEq] at head
  exact plain (by simp [same, ← head])

/-- What is to be replaced ends with a closing brace, so it does not reach into text without
one. -/
theorem prefix_append_iff (spans : OfSpans replacements) (plain : '}' ∉ behind)
    {r : Text × Text} (hr : r ∈ replacements) : r.1 <+: text ++ behind ↔ r.1 <+: text := by
  constructor
  · rintro ⟨extra, same⟩
    obtain ⟨span, inner, body, delimits, raw⟩ := spans r hr
    have last : r.1.getLast? = some '}' := by rw [← raw, delimits.getLast?]
    obtain ⟨m, rfl, -⟩ := Text.exists_eq_append_of_notMem same.symm last plain
    exact List.prefix_append _ _
  · exact fun start => start.trans (List.prefix_append _ _)

theorem longest?_append_right (spans : OfSpans replacements) (plain : '}' ∉ behind)
    (text : Text) :
    replacements.longest? (text ++ behind) = replacements.longest? text := by
  induction replacements with
  | nil => rfl
  | cons r others ih =>
    have same : r.1.isPrefixOf (text ++ behind) = r.1.isPrefixOf text := by
      rw [Bool.eq_iff_iff, List.isPrefixOf_iff_prefix, List.isPrefixOf_iff_prefix]
      exact prefix_append_iff spans plain (List.mem_cons_self ..)
    rw [longest?, longest?, ih fun r hr => spans r (List.mem_cons_of_mem _ hr), same]

theorem pass_of_notMem (spans : OfSpans replacements) (plain : '}' ∉ text) :
    replacements.pass text = text.map kept := by
  refine pass_eq_map_kept fun u v same _ => ?_
  have plain' : '}' ∉ v := fun mem => plain (same ▸ List.mem_append_right u mem)
  have found := longest?_append_right spans plain' []
  rw [List.nil_append] at found
  rw [found, longest?_eq_none_iff]
  exact fun r hr start => spans.ne_nil r hr (List.prefix_nil.mp start)

theorem pass_append_right (spans : OfSpans replacements) (plain : '}' ∉ behind) (text : Text) :
    replacements.pass (text ++ behind) = replacements.pass text ++ behind.map kept := by
  induction len : text.length using Nat.strong_induction_on generalizing text with
  | _ n ih =>
    have found := longest?_append_right spans plain text
    rcases pass_cases spans.ne_nil text with rfl | ⟨c, rest, rfl, none, same⟩ |
      ⟨r, hr, replacement, rest, rfl, some, same⟩
    · exact pass_of_notMem spans plain
    · rw [none, List.cons_append] at found
      rw [same, List.cons_append, pass_kept found, ih rest.length (by simp [← len]) rest rfl,
        List.cons_append]
    · have := List.length_pos_iff.mpr (spans.ne_nil r hr)
      rw [List.length_append] at len
      rw [some, List.append_assoc] at found
      rw [same, List.append_assoc, pass_replaced (spans.ne_nil r hr) found,
        ih rest.length (by omega) rest rfl, List.cons_append]

/-- **A substitution copies plain surroundings.** -/
theorem substitute_surrounded (spans : OfSpans replacements) (hfront : '{' ∉ front)
    (hbehind : '}' ∉ behind) (text : Text) :
    replacements.substitute (front ++ text ++ behind) =
      front ++ replacements.substitute text ++ behind := by
  rw [← written_pass, List.append_assoc, pass_append_left spans hfront,
    pass_append_right spans hbehind]
  simp

end Replacements

/-! ## Placeholders -/

/-- **Placeholders are filled without regard to their offsets.** -/
theorem Fill.placeholders_map_shift (setup : Setup) (nested : Nested) (locals : Scope)
    (bytes : Nat) (ps : List Placeholder) :
    placeholders setup nested locals (ps.map (Placeholder.shift bytes)) =
      placeholders setup nested locals ps := by
  induction ps with
  | nil => rfl
  | cons first rest ih =>
    rw [List.map_cons, placeholders, placeholders, ih]
    rfl

/-! ## Renders -/

/-- A rendered text in surroundings. -/
def Rendered.surround (front behind : Text) (rendered : Rendered) : Rendered where
  output := front ++ rendered.output ++ behind
  replacements := rendered.replacements
  placeholders := rendered.placeholders.map (Placeholder.shift (Text.byteLength front))

/-- **A render of a text in plain surroundings** does what a render of the text alone does,
with the surroundings around its output. Only the events tell the two apart. -/
theorem exists_run_surrounded {front behind : Text} (hfront : '{' ∉ front)
    (hbehind : '}' ∉ behind) (setup : Setup) (levels : Nat) (locals : Scope) (text : Text)
    (start : Progress) :
    ∃ trail, (renderWithin setup (levels + 1) locals (front ++ text ++ behind)).run start =
      let alone := (renderWithin setup (levels + 1) locals text).run start
      (alone.1.map (Rendered.surround front behind), { alone.2 with trail := trail }) := by
  obtain ⟨account, ran⟩ := Fill.oblivious_placeholders setup locals
    (oblivious_renderWithin setup levels) text
  -- both renders fill the same placeholders, from progresses that differ in the first event
  have filled (start : Progress) :
      (Fill.placeholders setup (renderWithin setup levels) locals (scan text)).run start =
        (account start.globals).apply setup.settings.recordIssues start :=
    ran setup.settings.recordIssues start
  simp only [renderWithin, scan_surrounded hfront hbehind, Fill.placeholders_map_shift,
    Render.run_bind, Render.run_note, filled]
  have returned := Fill.placeholders_returns setup (renderWithin setup levels) locals
    (scan text) start
  rw [filled] at returned
  simp only [Account.apply] at returned ⊢
  cases result : (account start.globals).result with
  | error failure => exact ⟨_, rfl⟩
  | ok replacements =>
    have covers := returned _ _ (congrArg (·, _) result)
    refine ⟨_, Prod.ext ?_ rfl⟩
    simp only [Render.run_pure, Except.map, Rendered.surround,
      Replacements.substitute_surrounded covers.ofSpans hfront hbehind]

/-! ## Sessions -/

/-- The snapshot of a render of the text in surroundings. -/
def Snapshot.surround (front behind : Text) (snapshot : Snapshot) : Snapshot :=
  { snapshot with
    placeholders := snapshot.placeholders.map (Placeholder.shift (Text.byteLength front))
    text := front ++ snapshot.text ++ behind }

namespace Session

variable {front behind : Text}

theorem renderKeeping_surrounded (hfront : '{' ∉ front) (hbehind : '}' ∉ behind)
    (session : Session) (clock : Int) (text : Text) (values : Values) :
    let alone := session.renderKeeping clock text values
    session.renderKeeping clock (front ++ text ++ behind) values =
      (alone.1.map fun output => front ++ output ++ behind,
        { alone.2 with
          snapshot :=
            match alone.1 with
            | .ok _ => alone.2.snapshot.map (Snapshot.surround front behind)
            | .error _ => alone.2.snapshot }) := by
  obtain ⟨trail, ran⟩ := exists_run_surrounded hfront hbehind (session.setup clock values)
    (session.setup clock values).settings.maxDepth [] text
    { globals := session.globals, issues := session.issues }
  simp only [renderKeeping, Stencil.render, ran]
  generalize (renderWithin (session.setup clock values) _ [] text).run _ = alone
  obtain ⟨failure | rendered, progress⟩ := alone
  · rfl
  · rfl

/-- **Plain surroundings are inert.** With text without opening braces in front and text without
closing braces behind, a render gives the output with the surroundings around it, or fails in
the same way. The variables, the issues and the replacements are the same, and the placeholders
are shifted by the bytes in front. -/
theorem render_surrounded (hfront : '{' ∉ front) (hbehind : '}' ∉ behind)
    (session : Session) (clock : Int) (text : Text) (values : Values) :
    let alone := session.render clock text values
    let whole := session.render clock (front ++ text ++ behind) values
    whole.1 = alone.1.map (fun output => front ++ output ++ behind) ∧
      whole.2.globals = alone.2.globals ∧ whole.2.issues = alone.2.issues ∧
      whole.2.snapshot.map Snapshot.replacements = alone.2.snapshot.map Snapshot.replacements ∧
      scan (front ++ text ++ behind) =
        (scan text).map (Placeholder.shift (Text.byteLength front)) := by
  intro alone whole
  have same : whole = _ :=
    renderKeeping_surrounded hfront hbehind { session with globals := [] } clock text values
  rw [same]
  refine ⟨rfl, rfl, rfl, ?_, scan_surrounded hfront hbehind text⟩
  change Option.map _ (match alone.1 with
    | .ok _ => alone.2.snapshot.map (Snapshot.surround front behind)
    | .error _ => alone.2.snapshot) = _
  cases alone.1 with
  | error failure => rfl
  | ok output => rw [Option.map_map]; rfl

/-- A block without an end, behind a closing keyword and in front of the last letter of one. -/
theorem render_surrounded_of_split_keyword :
    let session : Session := { loader := Loader.ofTemplates [] }
    let text : Text := opening ++ " if a ".toList ++ closing ++ " endi".toList
    session.render 0 text [] = (.ok text, (session.render 0 text []).2) ∧
      (session.render 0 ("endif ".toList ++ text ++ "f".toList) []).1 =
        .ok ("endif ".toList ++ text ++ "f".toList) := by
  intro session text
  have alone : (session.render 0 text []).1 = .ok text := by decide +kernel
  have front : '{' ∉ "endif ".toList := by decide
  have behind : '}' ∉ "f".toList := by decide
  have inert := render_surrounded front behind session 0 text []
  refine ⟨Prod.ext alone rfl, inert.1.trans ?_⟩
  rw [alone]
  rfl

end Session

end Stencil
