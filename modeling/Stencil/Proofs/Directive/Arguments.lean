import Stencil.Proofs.Directive.Sequence
import Stencil.Proofs.Text.Occurrence
import Stencil.Proofs.Value.Name

/-!
# Quoted arguments

Arguments in double quotes reach a directive as they are, whatever separators, bars and
parentheses they hold. The call is cut three times on its way: at the bar in front of it, at its
parentheses, and at the separators between its arguments. A bar inside a quote is guarded by the
quote. A separator that is itself a bar stands where a parenthesis is open, and stays there, since
it opens and closes nothing; a separator that is a parenthesis closes the call too early only
where no bar follows outside of quotes.

## Main definitions

* `Invocation.written`: a call with arguments in double quotes

## Main results

* `Pipeline.segments_append_written`: the call is one segment of a pipeline
* `Invocation.ofText_written`: the name and the text of the arguments are read back
* `Invocation.list_map_quote`: the arguments are read back
-/

namespace Stencil

variable {separator : Char} {contents : List Text}

/-! ## Bars in a call -/

namespace Text

/-- Between quoted texts there is no bar outside, if one that separates them is inside of
parentheses. -/
theorem Nesting.guards_join_quote {nesting : Nesting} (noQuote : isQuote separator = false)
    (outside : nesting.quote = none) (bar : separator = '|' → 0 < nesting.depth)
    (plain : ∀ content ∈ contents, '"' ∉ content) :
    Guards '|' true nesting (join [separator] (contents.map Text.quote)) := by
  -- the invariant is that no quote is open, and a parenthesis where the separator is a bar
  induction contents generalizing nesting with
  | nil => trivial
  | cons first others ih =>
    obtain ⟨plain_first, plain⟩ := List.forall_mem_cons.mp plain
    have guarded : Guards '|' true nesting (Text.quote first) :=
      guards_quote (by decide) outside plain_first
    cases others with
    | nil => simpa [join] using guarded
    | cons second others =>
      rw [join_quote_cons, guards_append, run_quote outside plain_first]
      refine ⟨guarded, ?here, ih (quote_step outside noQuote) ?later plain⟩
      case here =>
        intro same
        have inside := bar same
        simp only [isOutside, Bool.and_eq_false_iff, beq_eq_false_iff_ne]
        omega
      case later =>
        rintro rfl
        have stays : nesting.step true '|' = nesting := by simp [step, outside, noQuote]
        rw [stays]
        exact bar rfl

end Text

/-! ## Calls -/

namespace Invocation

/-- A call of a directive, with arguments in double quotes. -/
def written (separator : Char) (name : Text) (arguments : List Text) : Text :=
  name ++ '(' :: Text.join [separator] (arguments.map Text.quote) ++ [')']

variable {name : Text} (trimmed : Text.IsTrimmed name) (bare : Text.IsBare name)

section

include bare

theorem guards_written (noQuote : Text.isQuote separator = false)
    (plain : ∀ content ∈ contents, '"' ∉ content) :
    Text.Nesting.Guards '|' true {} (written separator name contents) := by
  rw [written, Text.Nesting.guards_append, Text.Nesting.guards_append,
    Text.Nesting.run_of_isBare rfl bare]
  refine ⟨⟨Text.Nesting.guards_of_notMem bare.notMem_bar, ?_, ?_⟩, ?_⟩
  · intro bar
    cases bar
  · exact Text.Nesting.guards_join_quote noQuote rfl (fun _ => Nat.one_pos) plain
  · exact Text.Nesting.guards_of_notMem (by decide)

end

include trimmed

theorem isTrimmed_written (arguments : List Text) :
    Text.IsTrimmed (written separator name arguments) where
  first c first := by
    rcases name with - | ⟨d, name⟩
    · cases first
      rfl
    · cases first
      exact trimmed.first c rfl
  last c last := by
    rw [written, List.getLast?_concat] at last
    cases last
    rfl

/-- **A call is read back** as the name and the text of the arguments. -/
theorem ofText_written (bare : Text.IsBare name) (arguments : List Text) :
    ofText (written separator name arguments) =
      ⟨name, some (Text.join [separator] (arguments.map Text.quote))⟩ := by
  rw [ofText, Text.trim_of_isTrimmed (isTrimmed_written trimmed arguments), written,
    List.append_assoc, List.cons_append, Text.cut?_append_cons bare.notMem_opening]
  simp only [List.getLast?_concat, if_true, List.dropLast_concat, Text.trim_of_isTrimmed trimmed]

omit trimmed

theorem isTrimmed_quote (content : Text) : Text.IsTrimmed (Text.quote content) where
  first c first := by
    cases first
    rfl
  last c last := by
    rw [Text.quote, List.getLast?_concat] at last
    cases last
    rfl

/-- **Quoted arguments** between separators are read back. -/
theorem split_join_quote (noQuote : Text.isQuote separator = false)
    (plain : ∀ content ∈ contents, '"' ∉ content) :
    split separator (Text.join [separator] (contents.map Text.quote)) =
      contents.map Text.quote := by
  rw [split]
  cases contents with
  | nil => rfl
  | cons first others =>
    have filled : Text.trim (Text.join [separator] ((first :: others).map Text.quote)) ≠ [] := by
      refine Text.trim_ne_nil (c := '"') ?_ rfl
      cases others <;> simp [Text.join, List.intercalate, Text.quote]
    rw [if_neg filled, Text.splitOutside_join_quote noQuote (List.cons_ne_nil _ _) plain,
      List.map_map]
    refine List.map_congr_left fun content _ => ?_
    exact Text.trim_of_isTrimmed (isTrimmed_quote content)

/-- What reaches the directive is at most three of the quoted arguments. -/
theorem list_map_quote (noQuote : Text.isQuote separator = false)
    (plain : ∀ content ∈ contents, '"' ∉ content) (name : Text) :
    list separator ⟨name, some (Text.join [separator] (contents.map Text.quote))⟩ =
      (contents.take 3).map Text.quote := by
  simp only [list, split_join_quote noQuote plain, List.map_take, Directive.maxArguments]

end Invocation

/-! ## Pipelines with a call -/

/-- **A call behind a word** is a segment of its own. -/
theorem Pipeline.segments_append_written {name source : Text} (word : Path.IsWord source)
    (trimmed : Text.IsTrimmed name) (bare : Text.IsBare name)
    (noQuote : Text.isQuote separator = false) (plain : ∀ content ∈ contents, '"' ∉ content) :
    segments (source ++ " | ".toList ++ Invocation.written separator name contents) =
      [source, Invocation.written separator name contents] := by
  have bare_front : Text.IsBare (source ++ [' ']) := by
    intro c mem
    rcases List.mem_append.mp mem with mem | mem
    · exact word.isBare c mem
    · obtain rfl := List.mem_singleton.mp mem
      decide
  have parts : source ++ " | ".toList ++ Invocation.written separator name contents =
      (source ++ [' ']) ++ '|' :: ' ' :: Invocation.written separator name contents := by
    simp
  have front : segments (source ++ [' ']) = [source] := by
    rw [segments_of_guards (Text.Nesting.guards_of_notMem bare_front.notMem_bar),
      Text.trim_concat_of_isTrimmed word.isTrimmed rfl]
  have back : segments (' ' :: Invocation.written separator name contents) =
      [Invocation.written separator name contents] := by
    have guarded : Text.Nesting.Guards '|' true {}
        (' ' :: Invocation.written separator name contents) :=
      And.intro (fun bar => by cases bar) (Invocation.guards_written bare noQuote plain)
    rw [segments_of_guards guarded,
      Text.trim_cons_of_isTrimmed (Invocation.isTrimmed_written trimmed contents) rfl]
  rw [parts, segments_append_bar (Text.Nesting.run_of_isBare rfl bare_front), front, back]
  rfl

/-- **Quoted arguments arrive as they are.** Behind a word, a call is a segment of its own. Its name
and the text of its arguments are read back, and without their quotes the first three arguments
are the texts that were quoted, whatever separates them. -/
theorem Invocation.list_ofText_written {name source : Text} (word : Path.IsWord source)
    (trimmed : Text.IsTrimmed name) (bare : Text.IsBare name)
    (noQuote : Text.isQuote separator = false) (plain : ∀ content ∈ contents, '"' ∉ content) :
    let call := written separator name contents
    Pipeline.segments (source ++ " | ".toList ++ call) = [source, call] ∧
    ofText call = ⟨name, some (Text.join [separator] (contents.map Text.quote))⟩ ∧
    ((ofText call).list separator).map Text.unquote = contents.take 3 ∧
    (contents.length ≤ 3 → ((ofText call).list separator).map Text.unquote = contents) := by
  intro call
  have read : ((ofText call).list separator).map Text.unquote = contents.take 3 := by
    rw [ofText_written trimmed bare, list_map_quote noQuote plain, List.map_map]
    exact (List.map_congr_left fun content _ => Text.unquote_quote content).trans (List.map_id _)
  refine ⟨Pipeline.segments_append_written word trimmed bare noQuote plain,
    ofText_written trimmed bare contents, read, fun few => ?_⟩
  rw [read, List.take_of_length_le few]

/-- Three arguments with bars, quotes, parentheses and blanks between closing parentheses. -/
theorem Invocation.list_ofText_written_of_closing :
    let contents : List Text := ["a|b", " (it's) ", ""]
    let call := written ')' "no such" contents
    call = "no such(\"a|b\")\" (it's) \")\"\")".toList ∧
    Pipeline.segments ("x | ".toList ++ call) = ["x".toList, call] ∧
    ((ofText call).list ')').map Text.unquote = contents := by
  intro contents call
  have word : Path.IsWord "x" := Path.isWord_of_isIdentifier (by decide +kernel)
  have trimmed : Text.IsTrimmed "no such" :=
    ⟨fun c first => by cases first; rfl, fun c last => by cases last; rfl⟩
  have plain : ∀ content ∈ contents, '"' ∉ content := by decide
  have noQuote : Text.isQuote ')' = false := rfl
  obtain ⟨parts, -, -, arguments⟩ :=
    list_ofText_written word trimmed (by decide) noQuote plain
  exact ⟨rfl, parts, arguments (by decide)⟩

end Stencil
