import Stencil.Text.Quoted

/-!
# Where a text is cut

A text is cut at the separators at which neither a quote nor a parenthesis is open. What is open
is carried along as the text is read, so what follows a text that closes all it opens is cut as if
nothing stood in front of it.

## Main definitions

* `IsBare text`: nothing in the text has a meaning of its own in a pipeline
* `Nesting.Guards separator parens nesting text`: something is open at every separator in the text

## Main results

* `Nesting.run_quote`: a text in double quotes leaves nothing open
* `splitOutside_append_cons`: the parts on both sides of a separator
* `splitOutsideFrom_of_guards`: a text whose separators are all guarded is one part
* `splitOutside_join_quote`: texts in double quotes are found again between separators
-/

namespace Stencil.Text

variable {separator : Char} {parens : Bool} {nesting : Nesting} {content text : Text}

/-- The text holds no bar, no quote and no parenthesis. -/
def IsBare (text : Text) : Prop :=
  ∀ c ∈ text, c ≠ '|' ∧ isQuote c = false ∧ c ≠ '(' ∧ c ≠ ')'

instance (text : Text) : Decidable (IsBare text) :=
  List.decidableBAll _ text

theorem IsBare.notMem_bar (bare : IsBare text) : '|' ∉ text := fun mem => (bare _ mem).1 rfl

theorem IsBare.notMem_opening (bare : IsBare text) : '(' ∉ text := fun mem => (bare _ mem).2.2.1 rfl

/-! ## Reading along a text -/

namespace Nesting

theorem run_cons (c : Char) (rest : Text) :
    run parens nesting (c :: rest) = run parens (nesting.step parens c) rest := rfl

@[simp] theorem run_append (s t : Text) :
    run parens nesting (s ++ t) = run parens (run parens nesting s) t := List.foldl_append

/-- A bare text leaves open what was open in front of it. -/
theorem run_of_isBare (outside : nesting.quote = none) (bare : IsBare text) :
    run parens nesting text = nesting := by
  induction text with
  | nil => rfl
  | cons c text ih =>
    obtain ⟨⟨-, noQuote, noOpening, noClosing⟩, later⟩ := List.forall_mem_cons.mp bare
    have stays : nesting.step parens c = nesting := by
      simp [step, outside, noQuote, noOpening, noClosing]
    rw [run_cons, stays, ih later]

/-- Inside a quoted stretch only the same quote counts. -/
theorem step_inside {quote c : Char} (inside : nesting.quote = some quote) (other : c ≠ quote) :
    nesting.step parens c = nesting := by
  simp only [step, inside, if_neg other]

theorem run_inside {quote : Char} (inside : nesting.quote = some quote) (absent : quote ∉ content) :
    run parens nesting content = nesting := by
  induction content with
  | nil => rfl
  | cons c content ih =>
    rw [List.mem_cons, not_or] at absent
    rw [run_cons, step_inside inside (Ne.symm absent.1), ih absent.2]

theorem step_quote (outside : nesting.quote = none) :
    nesting.step parens '"' = { nesting with quote := some '"' } := by
  simp [step, outside, isQuote]

theorem step_closing (outside : nesting.quote = none) :
    step parens { nesting with quote := some '"' } '"' = nesting := by
  obtain ⟨quote, depth⟩ := nesting
  cases outside
  simp [step]

/-- **A text in double quotes** leaves open what was open in front of it. -/
theorem run_quote (outside : nesting.quote = none) (plain : '"' ∉ content) :
    run parens nesting (Text.quote content) = nesting := by
  rw [Text.quote, List.cons_append, run_cons, step_quote outside, run_append,
    run_inside rfl plain, run_cons, step_closing outside]
  rfl

/-- A character that is no quote leaves no quote open. -/
theorem quote_step {c : Char} (outside : nesting.quote = none) (noQuote : isQuote c = false) :
    (nesting.step parens c).quote = none := by
  simp only [step, outside, noQuote, Bool.false_eq_true, if_false]
  split
  · rfl
  · split
    · rfl
    · exact outside

/-! ## Guarded separators -/

/-- At every separator in the text something is open, if `nesting` is open in front of it. -/
def Guards (separator : Char) (parens : Bool) : Nesting → Text → Prop
  | _, [] => True
  | nesting, c :: rest =>
    (c = separator → nesting.isOutside = false) ∧
      Guards separator parens (nesting.step parens c) rest

theorem guards_append {s t : Text} :
    Guards separator parens nesting (s ++ t) ↔
      Guards separator parens nesting s ∧ Guards separator parens (run parens nesting s) t := by
  induction s generalizing nesting with
  | nil => simp [Guards, run]
  | cons c s ih => rw [List.cons_append, Guards, Guards, ih, run_cons, and_assoc]

theorem guards_of_notMem (absent : separator ∉ text) : Guards separator parens nesting text := by
  induction text generalizing nesting with
  | nil => trivial
  | cons c text ih =>
    rw [List.mem_cons, not_or] at absent
    exact ⟨fun same => absurd same.symm absent.1, ih absent.2⟩

theorem guards_inside {quote : Char} (inside : nesting.quote = some quote)
    (absent : quote ∉ content) : Guards separator parens nesting content := by
  induction content with
  | nil => trivial
  | cons c content ih =>
    rw [List.mem_cons, not_or] at absent
    rw [Guards, step_inside inside (Ne.symm absent.1)]
    exact ⟨fun _ => by simp [isOutside, inside], ih absent.2⟩

/-- Double quotes guard every separator between them. -/
theorem guards_quote (noQuote : separator ≠ '"') (outside : nesting.quote = none)
    (plain : '"' ∉ content) : Guards separator parens nesting (Text.quote content) := by
  rw [Text.quote, List.cons_append, Guards, step_quote outside, guards_append]
  refine ⟨fun same => absurd same.symm noQuote, guards_inside rfl plain, ?_⟩
  exact guards_of_notMem (by simpa using noQuote)

end Nesting

open Nesting (Guards guards_append guards_quote run run_append run_quote)

/-! ## The parts -/

/-- **A text whose separators are all guarded** is one part. -/
theorem splitOutsideFrom_of_guards (h : Guards separator parens nesting text) :
    splitOutsideFrom separator parens nesting text = [text] := by
  induction text generalizing nesting with
  | nil => rfl
  | cons c text ih =>
    obtain ⟨here, later⟩ := h
    have stays : ¬ (nesting.isOutside && c == separator && nesting.step parens c == nesting) := by
      intro cut
      simp only [Bool.and_eq_true, beq_iff_eq] at cut
      rw [here cut.1.2] at cut
      exact absurd cut.1.1 Bool.false_ne_true
    rw [splitOutsideFrom, if_neg stays, ih later]

theorem splitOutside_of_notMem (absent : separator ∉ text) :
    splitOutside separator parens text = [text] :=
  splitOutsideFrom_of_guards (Nesting.guards_of_notMem absent)

/-- Behind a text that closes all it opens, a separator cuts. -/
theorem splitOutsideFrom_append_cons (neutral : Nesting.step parens {} separator = {})
    (closed : run parens nesting text = {}) (rest : Text) :
    splitOutsideFrom separator parens nesting (text ++ separator :: rest) =
      splitOutsideFrom separator parens nesting text ++ splitOutside separator parens rest := by
  -- on the text in front, along which what is open changes
  induction text generalizing nesting with
  | nil =>
    obtain rfl : nesting = {} := closed
    simp [splitOutsideFrom, splitOutside, neutral, Nesting.isOutside]
  | cons c text ih =>
    rw [Nesting.run_cons] at closed
    rw [List.cons_append, splitOutsideFrom, splitOutsideFrom]
    split
    · next cut =>
      have same : nesting.step parens c = nesting := by
        simp only [Bool.and_eq_true, beq_iff_eq] at cut
        exact cut.2
      rw [ih (same ▸ closed), List.cons_append]
    · rw [ih closed]
      obtain ⟨first, others, parts⟩ := List.exists_cons_of_ne_nil
        (splitOutsideFrom_ne_nil separator parens (nesting.step parens c) text)
      simp only [parts, List.cons_append]

/-- **The parts on both sides of a separator**, behind a text that closes all it opens. -/
theorem splitOutside_append_cons (neutral : Nesting.step parens {} separator = {})
    (closed : run parens {} text = {}) (rest : Text) :
    splitOutside separator parens (text ++ separator :: rest) =
      splitOutside separator parens text ++ splitOutside separator parens rest :=
  splitOutsideFrom_append_cons neutral closed rest

/-- Quoted texts are joined one by one. -/
theorem join_quote_cons (first second : Text) (others : List Text) :
    join [separator] ((first :: second :: others).map quote) =
      quote first ++ separator :: join [separator] ((second :: others).map quote) := by
  simp [join, List.intercalate]

/-- **Texts in double quotes** are found again between separators, whatever they hold. -/
theorem splitOutside_join_quote (noQuote : isQuote separator = false) {contents : List Text}
    (ne : contents ≠ []) (plain : ∀ content ∈ contents, '"' ∉ content) :
    splitOutside separator false (join [separator] (contents.map quote)) = contents.map quote := by
  have different : separator ≠ '"' := by
    rintro rfl
    cases noQuote
  have neutral : Nesting.step false {} separator = {} := by simp [Nesting.step, noQuote]
  induction contents with
  | nil => exact absurd rfl ne
  | cons first others ih =>
    obtain ⟨plain_first, plain⟩ := List.forall_mem_cons.mp plain
    have alone : splitOutside separator false (quote first) = [quote first] :=
      splitOutsideFrom_of_guards (guards_quote different rfl plain_first)
    cases others with
    | nil => simpa [join] using alone
    | cons second others =>
      rw [join_quote_cons, splitOutside_append_cons neutral (run_quote rfl plain_first), alone,
        ih (List.cons_ne_nil _ _) plain]
      rfl

end Stencil.Text
