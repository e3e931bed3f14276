import Stencil.Proofs.Expr.Name
import Stencil.Proofs.Markup.Section
import Stencil.Proofs.Render.Outcome
import Stencil.Proofs.Render.Sequence
import Stencil.Proofs.Render.Variable

/-!
# Copying a value

An assignment whose expression is a name copies the value of this name. A copy is rendered as the
value itself, except that a text that spells a number is copied as this number.

## Main definitions

* `Markup.nameTag`, `Markup.assignmentTag`: the tags of a name and of an assignment

## Main results

* `Markup.delimits_nameTag`, `Markup.delimits_assignmentTag`: these tags are spans
* `Value.display_coerceNumeric_eq_iff`: which values a copy changes
* `Session.render_copy`: what a copied value is rendered as
-/

namespace Stencil

open Markup (Placeholder Span clause closing layout normalize opening scan)

/-! ## Two tags -/

namespace Markup

/-- The tag that is replaced by the value of a name. -/
def nameTag (name : Text) : Text := opening ++ (' ' :: name ++ [' ']) ++ closing

/-- What an assignment holds behind its keyword. -/
def assignmentBody (name source : Text) : Text := name ++ ' ' :: (['='] ++ ' ' :: source)

/-- The tag that sets a name to the value of an expression. -/
def assignmentTag (name source : Text) : Text :=
  opening ++ clause "set" (assignmentBody name source) ++ closing

section Tags

variable {name source : Text} (hname : Path.IsWord name)

include hname in
/-- **The tag of a name** is a simple span. -/
theorem delimits_nameTag :
    Span.Delimits ⟨nameTag name, name, .simple⟩ (' ' :: name ++ [' ']) [] := by
  have noOpening : '{' ∉ ' ' :: name ++ [' '] := by simpa using hname.noOpening
  have noClosing : '}' ∉ ' ' :: name ++ [' '] := by simpa using hname.noClosing
  have kind : Kind.classify (normalize (' ' :: name ++ [' '])) = .simple := by
    rw [normalize_word hname, Kind.classify_word hname]
  have delimits := delimits_tag noOpening noClosing (by rw [kind]; rfl)
  rwa [kind, normalize_word hname] at delimits

/-- What can stand as the expression of an assignment: a text without braces that has no blanks at
its ends once it is spaced. -/
structure IsSource (source : Text) : Prop where
  noOpening : '{' ∉ source
  noClosing : '}' ∉ source
  filled : spaced source ≠ []
  ends : Text.IsTrimmed (spaced source)

theorem isSource_of_isWord {word : Text} (h : Path.IsWord word) : IsSource word where
  noOpening := h.noOpening
  noClosing := h.noClosing
  filled := (spaced_word h).symm ▸ h.nonempty
  ends := (spaced_word h).symm ▸ h.isTrimmed

include hname

theorem isTrimmed_assignmentBody (filled : source ≠ []) (ends : Text.IsTrimmed source) :
    Text.IsTrimmed (assignmentBody name source) where
  first c first := by
    apply hname.isTrimmed.first c
    rwa [assignmentBody, List.head?_append_of_ne_nil _ hname.nonempty] at first
  last c last := by
    apply ends.last c
    have parts : assignmentBody name source = (name ++ [' ', '=', ' ']) ++ source := by
      simp [assignmentBody]
    rwa [parts, List.getLast?_append_of_ne_nil _ filled] at last

theorem spaced_assignmentBody :
    spaced (assignmentBody name source) = assignmentBody name (spaced source) := by
  have sign : spaced ['='] = ['='] :=
    spaced_of_forall (by decide) (List.forall_mem_singleton.mpr rfl)
  rw [assignmentBody, spaced_append_cons, spaced_append_cons, spaced_word hname, sign,
    assignmentBody]

theorem normalize_assignmentBody (hsource : IsSource source) :
    normalize (assignmentBody name source) = assignmentBody name (spaced source) := by
  have trimmed := isTrimmed_assignmentBody hname hsource.filled hsource.ends
  rw [normalize_eq_trim_spaced, spaced_assignmentBody hname, Text.trim_of_isTrimmed trimmed]

/-- **The tag of an assignment** is a span of its own kind. -/
theorem delimits_assignmentTag (hsource : IsSource source) :
    Span.Delimits
      ⟨assignmentTag name source, "set".toList ++ ' ' :: assignmentBody name (spaced source),
        .assignment⟩
      (clause "set" (assignmentBody name source)) [] := by
  have letters : ∀ c ∈ "set".toList, c.isAlpha = true := List.all_eq_true.mp rfl
  have spaced_body : spaced (assignmentBody name source) = assignmentBody name (spaced source) :=
    spaced_assignmentBody hname
  have trimmed := isTrimmed_assignmentBody hname hsource.filled hsource.ends
  have filled : assignmentBody name (spaced source) ≠ [] :=
    List.append_ne_nil_of_left_ne_nil hname.nonempty _
  have content : normalize (assignmentBody name source) ≠ [] := by
    rwa [normalize_assignmentBody hname hsource]
  rw [← spaced_body] at trimmed filled
  have hne : "set".toList ≠ [] := by decide
  have same := normalize_clause_of_isTrimmed hne letters filled trimmed
  have kind : Kind.classify (normalize (clause "set" (assignmentBody name source))) =
      .assignment :=
    Kind.classify_clause hne letters content
  have noOpening : '{' ∉ clause "set" (assignmentBody name source) := by
    simpa [clause, assignmentBody] using ⟨hname.noOpening, hsource.noOpening⟩
  have noClosing : '}' ∉ clause "set" (assignmentBody name source) := by
    simpa [clause, assignmentBody] using ⟨hname.noClosing, hsource.noClosing⟩
  have delimits := delimits_tag noOpening noClosing (by rw [kind]; rfl)
  rwa [kind, same, spaced_body] at delimits

/-- The name and the expression of an assignment are read back. -/
theorem assignmentParts?_assignmentBody (isName : Path.isIdentifier name = true)
    (ends : Text.IsTrimmed source) :
    Fill.assignmentParts? ("set".toList ++ ' ' :: assignmentBody name source) =
      some (name, source) := by
  have letters : ∀ c ∈ "set".toList, c.isAlpha = true := List.all_eq_true.mp rfl
  have noSign := hname.notMem (c := '=') (by decide +kernel) (by decide)
  have cut : Text.cut? ['='] (' ' :: assignmentBody name source) =
      some (' ' :: name ++ [' '], ' ' :: source) := by
    have parts : ' ' :: assignmentBody name source =
        (' ' :: name ++ [' ']) ++ '=' :: ' ' :: source := by
      simp [assignmentBody]
    rw [parts, Text.cut?_append_cons (by simpa using noSign)]
  have blank : ∀ c ∈ [' '], Text.isBlank c = true := List.forall_mem_singleton.mpr rfl
  have name_eq : Text.trim (' ' :: name ++ [' ']) = name :=
    Text.trim_append_of_isTrimmed hname.isTrimmed blank blank
  have source_eq : Text.trim (' ' :: source) = source := Text.trim_cons_of_isTrimmed ends rfl
  rw [Fill.assignmentParts?, splitKeyword_append_cons letters]
  simp only [cut, Option.map_some, name_eq, source_eq, Option.filter_some, isName]
  rfl

end Tags

end Markup

/-- The placeholders of two different spans. -/
theorem Markup.scan_append_raw {first second : Span} {inner body inner' body' : Text}
    (h : first.Delimits inner body) (h' : second.Delimits inner' body')
    (different : first.raw ≠ second.raw) :
    scan (first.raw ++ second.raw) = [⟨first, 0⟩, ⟨second, Text.byteLength first.raw⟩] := by
  have spans := h.layout_append second.raw
  have last := h'.layout_append []
  have empty : layout [] = ⟨[], []⟩ := layout_of_none (by decide)
  rw [List.append_nil, empty] at last
  rw [scan, spans, last]
  simp [Layout.pushSpan, placeholdersFrom, Ne.symm different]

/-! ## The value of a copy -/

/-- **The display of a copy** is that of the value, unless the value is a text that spells a
number and is not written as this number is displayed. -/
theorem Value.display_coerceNumeric_eq_iff (value : Value) :
    value.coerceNumeric.display = value.display ↔
      ∀ content number, value = .text content → Number.literal? content = some number →
        number.display = content := by
  cases value with
  | text content =>
    cases spelled : Number.literal? content with
    | none =>
      simp only [coerceNumeric, spelled, true_iff]
      intro other number same literal
      cases same
      rw [spelled] at literal
      cases literal
    | some number =>
      simp only [coerceNumeric, spelled, display]
      constructor
      · intro written other number' same literal
        cases same
        obtain rfl := Option.some.inj (spelled.symm.trans literal)
        exact written
      · intro all
        exact all content number rfl spelled
  | null | bool | number | list | object =>
    refine iff_of_true rfl ?_
    intro content number text
    cases text

theorem Value.isObject_coerceNumeric (value : Value) :
    value.coerceNumeric.isObject = value.isObject := by
  cases value with
  | text content =>
    simp only [Value.coerceNumeric]
    cases Number.literal? content <;> rfl
  | _ => rfl

/-! ## Renders of the two tags -/

section Run

variable {setup : Setup} {locals : Scope} {name source : Text} {value : Value}

/-- **A name alone** is rendered as its value. -/
theorem exists_run_nameTag (start : Progress) (hname : Path.IsWord name)
    (bound : (Env.lookup ⟨locals, start.globals, setup.values⟩).get? name = some value)
    (scalar : value.isObject = false) (levels : Nat) :
    ∃ rendered middle, rendered.output = value.display ∧
      (renderWithin setup (levels + 1) locals (Markup.nameTag name)).run start =
        (.ok rendered, middle) := by
  let p : Placeholder := ⟨⟨Markup.nameTag name, name, .simple⟩, 0⟩
  let begun : Progress := { start with trail := .scanned (Markup.nameTag name) :: start.trail }
  have delimits := Markup.delimits_nameTag hname
  have scanned : scan (Markup.nameTag name) = [p] := delimits.scan_raw
  have filled : (Fill.placeholder setup (renderWithin setup levels) locals p).run begun =
      (.ok (some value.display), begun) :=
    Fill.run_simple_of_isWord begun hname bound scalar
  refine ⟨Rendered.whole p (some value.display), begun, rfl, ?_⟩
  rw [run_renderWithin_of_scan scanned rfl delimits.raw_ne_nil, Render.run_bind, filled]
  rfl

/-- **Two spans** that are both filled are replaced by their texts. -/
theorem exists_run_of_two_spans {first second : Span} {inner body inner' body' shown shown' : Text}
    {start middle stop : Progress} {levels : Nat} (h : first.Delimits inner body)
    (h' : second.Delimits inner' body') (different : first.raw ≠ second.raw)
    (filled : (Fill.placeholder setup (renderWithin setup levels) locals ⟨first, 0⟩).run
      { start with trail := .scanned (first.raw ++ second.raw) :: start.trail } =
        (.ok (some shown), middle))
    (filled' : (Fill.placeholder setup (renderWithin setup levels) locals
      ⟨second, Text.byteLength first.raw⟩).run middle = (.ok (some shown'), stop)) :
    ∃ rendered, rendered.output = shown ++ shown' ∧
      (renderWithin setup (levels + 1) locals (first.raw ++ second.raw)).run start =
        (.ok rendered, stop) := by
  rw [run_renderWithin_succ, Markup.scan_append_raw h h' different,
    Fill.run_resume_cons_of_ok filled, Fill.run_resume_cons_of_ok filled', Fill.run_resume_nil]
  refine ⟨_, ?_, rfl⟩
  let replacements : Replacements := [(first.raw, shown), (second.raw, shown')]
  have spans : replacements.OfSpans := by
    intro r hr
    rcases List.mem_cons.mp hr with rfl | hr
    · exact ⟨first, _, _, h, rfl⟩
    · obtain rfl := List.mem_singleton.mp hr
      exact ⟨second, _, _, h', rfl⟩
  have found : replacements.lookup first.raw = some shown := List.lookup_cons_self
  have other : (second.raw == first.raw) = false := beq_eq_false_iff_ne.mpr (Ne.symm different)
  have found' : replacements.lookup second.raw = some shown' := by
    rw [List.lookup_cons, other, List.lookup_cons_self]
  have head := Replacements.substitute_raw_append spans h found second.raw
  have behind := Replacements.substitute_raw_append spans h' found' []
  rw [List.append_nil] at behind
  change replacements.substitute (first.raw ++ second.raw) = shown ++ shown'
  rw [head, behind]
  simp [Replacements.substitute, Text.replacing, Text.replacingFrom]

/-- **A name behind its assignment** is rendered as the value that it then has. -/
theorem exists_run_assignmentTag_nameTag (start : Progress) (hname : Path.IsWord name)
    (hsource : Path.IsWord source) {middle : Progress} (levels : Nat) :
    let text := Markup.assignmentTag name source ++ Markup.nameTag name
    let directive := "set".toList ++ ' ' :: Markup.assignmentBody name source
    (Fill.assignment setup locals directive).run
        { start with trail := .scanned text :: start.trail } = (.ok (some []), middle) →
    (Env.lookup ⟨locals, middle.globals, setup.values⟩).get? name = some value →
    value.isObject = false →
    ∃ rendered, rendered.output = value.display ∧
      (renderWithin setup (levels + 1) locals text).run start = (.ok rendered, middle) := by
  intro text directive assigned bound scalar
  have first := Markup.delimits_assignmentTag hname (Markup.isSource_of_isWord hsource)
  rw [Markup.spaced_word hsource] at first
  have second := Markup.delimits_nameTag hname
  have different : Markup.assignmentTag name source ≠ Markup.nameTag name := by
    intro same
    have spans := first.eq_of_append_eq second (congrArg (· ++ []) same)
    cases congrArg Span.kind spans
  have filled' : (Fill.placeholder setup (renderWithin setup levels) locals
      ⟨⟨Markup.nameTag name, name, .simple⟩,
        Text.byteLength (Markup.assignmentTag name source)⟩).run middle =
        (.ok (some value.display), middle) :=
    Fill.run_simple_of_isWord middle hname bound scalar
  exact exists_run_of_two_spans first second different assigned filled'

end Run

/-! ## Renders of a session -/

namespace Session

variable (session : Session) (clock : Int) {values : Values} {name source : Text} {value : Value}

theorem fst_render_nameTag (origin : Path.isIdentifier source = true)
    (bound : (Scope.ofValues values).get? source = some value) (scalar : value.isObject = false) :
    (session.render clock (Markup.nameTag source) values).1 = .ok value.display := by
  have found : (Env.lookup ⟨[], [], (session.setup clock values).values⟩).get? source =
      some value := by
    rw [Env.get?_lookup]
    exact bound
  obtain ⟨rendered, middle, output, ran⟩ := exists_run_nameTag { issues := session.issues }
    (Path.isWord_of_isIdentifier origin) found scalar (session.setup clock values).settings.maxDepth
  rw [fst_render_of_run ran, output]

/-- The output behind an assignment is the value that the name then has. -/
theorem fst_render_assignmentTag_nameTag (target : Path.isIdentifier name = true)
    (hsource : Path.IsWord source) (unbound : (Scope.ofValues values).get? name = none) :
    let lookup := Env.lookup ⟨[], [(name, .null)], Scope.ofValues values⟩
    let copied :=
      (session.render clock (Markup.assignmentTag name source ++ Markup.nameTag name) values).1
    (∀ e, Assignment.value lookup source = .error e → copied = .ok []) ∧
      ∀ copy, Assignment.value lookup source = .ok copy → copy.isObject = false →
        copied = .ok copy.display := by
  intro lookup copied
  let around := session.setup clock values
  let directive := "set".toList ++ ' ' :: Markup.assignmentBody name source
  let text := Markup.assignmentTag name source ++ Markup.nameTag name
  let begun : Progress := { issues := session.issues, trail := [.scanned text] }
  have hname := Path.isWord_of_isIdentifier target
  have parts := Markup.assignmentParts?_assignmentBody hname target hsource.isTrimmed
  have none : ((Env.lookup ⟨[], [], Scope.ofValues values⟩).get? name).isNone = true := by
    rw [Env.get?_lookup]
    exact Option.isNone_iff_eq_none.mpr unbound
  have declared : Fill.declared around [] name [] = [(name, .null)] := if_pos none
  have assigned : (Fill.assignment around [] directive).run begun = _ :=
    Fill.run_assignment begun parts
  -- the name behind the assignment shows what the assignment has left, be it null or the copy
  have behind (middle : Progress) (value : Value)
      (ran : (Fill.assignment around [] directive).run begun = (.ok (some []), middle))
      (own : middle.globals.get? name = some value) (scalar : value.isObject = false) :
      copied = .ok value.display := by
    have bound : (Env.lookup ⟨[], middle.globals, around.values⟩).get? name = some value := by
      rw [Env.get?_lookup]
      simp [own]
    obtain ⟨rendered, output, whole⟩ := exists_run_assignmentTag_nameTag
      { issues := session.issues } hname hsource around.settings.maxDepth ran bound scalar
    rw [← output]
    exact fst_render_of_run whole
  simp only [begun, declared] at assigned
  constructor
  · intro e failed
    change Assignment.value (Env.lookup ⟨[], [(name, .null)], around.values⟩) source = _ at failed
    rw [failed] at assigned
    exact behind _ .null assigned (by simp [Bindings.get?_cons]) rfl
  · intro copy found scalar
    change Assignment.value (Env.lookup ⟨[], [(name, .null)], around.values⟩) source = _ at found
    rw [found] at assigned
    exact behind _ copy assigned (by simp [Bindings.get?_insert]) scalar

/-- **A copied value** is rendered as the value itself, unless it is a text that spells a number
or its name holds a character that no expression can name. A text that spells a number is copied
as this number, and is rendered as the number is written. -/
theorem render_copy (target : Path.isIdentifier name = true)
    (origin : Path.isIdentifier source = true)
    (noKeyword : Token.ofWord source = .name source)
    (bound : (Scope.ofValues values).get? source = some value)
    (unbound : (Scope.ofValues values).get? name = none) (scalar : value.isObject = false) :
    let plain := (session.render clock (Markup.nameTag source) values).1
    let copied :=
      (session.render clock (Markup.assignmentTag name source ++ Markup.nameTag name) values).1
    plain = .ok value.display ∧
      (source.IsAscii →
        copied = .ok value.coerceNumeric.display ∧
        (copied = plain ↔ ∀ content number, value = .text content →
          Number.literal? content = some number → number.display = content)) ∧
      (¬ source.IsAscii → copied = .ok []) := by
  intro plain copied
  have plain_eq : plain = .ok value.display := session.fst_render_nameTag clock origin bound scalar
  obtain ⟨failed, succeeded⟩ := session.fst_render_assignmentTag_nameTag clock target
    (Path.isWord_of_isIdentifier origin) unbound
  refine ⟨plain_eq, ?_, ?_⟩
  · intro ascii
    -- the new name is null while the old one is looked up, which must not be the same
    have different : name ≠ source := by
      rintro rfl
      rw [bound] at unbound
      cases unbound
    have found : (Env.lookup ⟨[], [(name, .null)], Scope.ofValues values⟩).get? source =
        some value := by
      simp [Env.get?_lookup, Bindings.get?_cons, different, bound]
    have copied_eq : copied = .ok value.coerceNumeric.display :=
      succeeded _ (Assignment.value_of_isAscii origin _ ascii noKeyword found)
        (by rw [Value.isObject_coerceNumeric, scalar])
    refine ⟨copied_eq, ?_⟩
    rw [copied_eq, plain_eq, Except.ok.injEq]
    exact value.display_coerceNumeric_eq_iff
  · intro foreign
    obtain ⟨e, error⟩ := Assignment.exists_value_eq_error origin
      (Env.lookup ⟨[], [(name, .null)], Scope.ofValues values⟩) foreign
    exact failed e error

/-- A list under a name of ASCII letters is rendered through a copy as it is rendered itself. -/
theorem render_copy_of_list :
    let tag (inner : String) : Text := Markup.opening ++ inner.toList ++ Markup.closing
    let session : Session := { loader := Loader.ofTemplates [] }
    let values : Values := [("xs".toList, .list [.text "a".toList, .text "1.50".toList])]
    (session.render 0 (tag " set copy = xs " ++ tag " copy ") values).1 =
      (session.render 0 (tag " xs ") values).1 := by
  intro tag session values
  have target : Path.isIdentifier "copy".toList = true := by decide +kernel
  have origin : Path.isIdentifier "xs".toList = true := by decide +kernel
  have bound : (Scope.ofValues values).get? "xs".toList =
      some (.list [.text "a".toList, .text "1.50".toList]) := rfl
  have unbound : (Scope.ofValues values).get? "copy".toList = none := rfl
  obtain ⟨-, same, -⟩ := session.render_copy 0 target origin rfl bound unbound rfl
  have ascii : Text.IsAscii "xs".toList := by decide
  refine (same ascii).2.mpr ?_
  intro content number text
  cases text

/-- A text that spells a number loses its last digit in a copy. What a name outside of ASCII is
bound to is not copied at all. -/
theorem copy_changes_text :
    let tag (inner : String) : Text := Markup.opening ++ inner.toList ++ Markup.closing
    let session : Session := { loader := Loader.ofTemplates [] }
    let price : Values := [("x".toList, .text "1.50".toList)]
    let word : Values := [("é".toList, .text "a".toList)]
    (session.render 0 (tag " x ") price).1 = .ok "1.50".toList ∧
      (session.render 0 (tag " set y = x " ++ tag " y ") price).1 = .ok "1.5".toList ∧
      Path.isIdentifier "é".toList = true ∧
      (session.render 0 (tag " é ") word).1 = .ok "a".toList ∧
      (session.render 0 (tag " set y = é " ++ tag " y ") word).1 = .ok [] := by
  decide +kernel

end Session

end Stencil
