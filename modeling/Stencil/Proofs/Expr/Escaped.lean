import Stencil.Proofs.Expr.Quoted

/-!
# Quoted texts with escapes

A text is written between double quotes by putting a backslash in front of each of its double quotes
and backslashes. The quoted text then ends where it should, but what stands between its quotes is
read as if it had no quotes around it: a backslash is plain there, and works as an escape only
behind a further double quote. So the text comes back only if it needed no escapes.

## Main definitions

* `Text.escaped s`: the text with a backslash in front of each double quote and backslash
* `Text.reread s`: what the escaped text stands for between double quotes

## Main results

* `Token.takeQuoted_escaped`: an escaped text ends at the quote behind it
* `Text.contentMeaning?_escaped`: how an escaped text is read without quotes around it
* `Text.reread_eq_iff`: which texts come back
* `Expr.parse_quote_escaped`: an escaped text between double quotes as an expression
-/

namespace Stencil

namespace Text

/-! ## Writing and reading escapes -/

/-- The text with a backslash in front of each double quote and each backslash. -/
def escaped : Text → Text
  | [] => []
  | c :: rest =>
    if c = '"' ∨ c = '\\' then '\\' :: c :: escaped rest else c :: escaped rest

/-- What an escaped text is read as, outside or inside of a stretch in single quotes. A backslash is
plain and stays beside the character that it was put in front of. A single quote is lost. The first
double quote outside of single quotes is lost too, and behind it all escapes work. -/
def rereadFrom : (single : Bool) → Text → Text
  | _, [] => []
  | single, c :: rest =>
    if c = '\'' then rereadFrom (!single) rest
    else if c = '\\' then '\\' :: '\\' :: rereadFrom single rest
    else if c = '"' then
      if single then '\\' :: '"' :: rereadFrom single rest else '\\' :: rest
    else c :: rereadFrom single rest

/-- What an escaped text stands for between double quotes. Without a backslash it is itself. -/
def reread (s : Text) : Text :=
  if '"' ∈ s ∨ '\\' ∈ s then rereadFrom false s else s

theorem escaped_cons_of_special {c : Char} (special : c = '"' ∨ c = '\\') (rest : Text) :
    escaped (c :: rest) = '\\' :: c :: escaped rest := by
  rw [escaped, if_pos special]

theorem escaped_cons_of_plain {c : Char} (plain : ¬ (c = '"' ∨ c = '\\')) (rest : Text) :
    escaped (c :: rest) = c :: escaped rest := by
  rw [escaped, if_neg plain]

/-- A text that needs no escapes is not changed. -/
theorem escaped_of_notMem {s : Text} (h : ¬ ('"' ∈ s ∨ '\\' ∈ s)) : escaped s = s := by
  induction s with
  | nil => rfl
  | cons c rest ih =>
    simp only [List.mem_cons, not_or] at h ih
    obtain ⟨⟨notQuote, noQuote⟩, notEscape, noEscape⟩ := h
    rw [escaped_cons_of_plain (by simp [Ne.symm notQuote, Ne.symm notEscape]),
      ih ⟨noQuote, noEscape⟩]

theorem mem_escaped {s : Text} (h : '"' ∈ s ∨ '\\' ∈ s) : '\\' ∈ escaped s := by
  induction s with
  | nil => simp at h
  | cons c rest ih =>
    by_cases special : c = '"' ∨ c = '\\'
    · rw [escaped_cons_of_special special]
      exact List.mem_cons_self ..
    · rw [escaped_cons_of_plain special]
      rw [not_or] at special
      simp only [List.mem_cons, Ne.symm special.1, Ne.symm special.2, false_or] at h
      exact List.mem_cons_of_mem c (ih h)

/-! ## Reading without quotes around it -/

/-- A backslash in front of a double quote or of a backslash leaves this character alone. -/
theorem unescapeFrom?_double_special {c : Char} (special : c = '"' ∨ c = '\\') (rest : Text) :
    unescapeFrom? .double ('\\' :: c :: rest) = (unescapeFrom? .double rest).map (c :: ·) := by
  rcases special with rfl | rfl
  all_goals
    change (do return _ :: (← unescapeFrom? .double rest)) = _
    cases unescapeFrom? .double rest <;> rfl

/-- **Behind a double quote** all escapes work. -/
theorem unescapeFrom?_double_escaped (s : Text) : unescapeFrom? .double (escaped s) = some s := by
  induction s with
  | nil => rfl
  | cons c rest ih =>
    by_cases special : c = '"' ∨ c = '\\'
    · rw [escaped_cons_of_special special, unescapeFrom?_double_special special, ih]
      rfl
    · rw [escaped_cons_of_plain special]
      rw [not_or] at special
      rw [unescapeFrom?, if_neg special.1, if_neg special.2, ih]
      rfl

/-- What is read in front of the first double quote: a stretch in single quotes, or plain text. -/
def EscapeState.outside (single : Bool) : EscapeState := if single then .single else .plain

theorem unescapeFrom?_outside_apostrophe (single : Bool) (rest : Text) :
    unescapeFrom? (.outside single) ('\'' :: rest) = unescapeFrom? (.outside !single) rest := by
  cases single <;> rfl

theorem unescapeFrom?_outside_cons (single : Bool) {c : Char} (rest : Text)
    (plain : c ≠ '\'') (noQuote : c ≠ '"') :
    unescapeFrom? (.outside single) (c :: rest) =
      (unescapeFrom? (.outside single) rest).map (c :: ·) := by
  cases single <;> simp [EscapeState.outside, unescapeFrom?, plain, noQuote]

/-- In single quotes a double quote is plain as well. -/
theorem unescapeFrom?_single_quote (rest : Text) :
    unescapeFrom? (.outside true) ('"' :: rest) =
      (unescapeFrom? (.outside true) rest).map ('"' :: ·) := by
  simp [EscapeState.outside, unescapeFrom?]

/-- **In front of the first double quote** a backslash is plain. -/
theorem unescapeFrom?_escaped (single : Bool) (s : Text) :
    unescapeFrom? (.outside single) (escaped s) = some (rereadFrom single s) := by
  have backslash (single : Bool) (rest : Text) := unescapeFrom?_outside_cons single (c := '\\') rest
    (by decide) (by decide)
  induction s generalizing single with
  | nil => cases single <;> rfl
  | cons c rest ih =>
    by_cases special : c = '"' ∨ c = '\\'
    · rw [escaped_cons_of_special special, backslash]
      rcases special with rfl | rfl
      · cases single with
        | false =>
          -- the quote opens a stretch, which no later quote closes
          have opened : unescapeFrom? (.outside false) ('"' :: escaped rest) = some rest :=
            unescapeFrom?_double_escaped rest
          rw [opened]
          rfl
        | true =>
          rw [unescapeFrom?_single_quote, ih]
          rfl
      · rw [backslash, ih]
        rfl
    · rw [escaped_cons_of_plain special]
      rw [not_or] at special
      by_cases apostrophe : c = '\''
      · rw [apostrophe, unescapeFrom?_outside_apostrophe, ih]
        rfl
      · rw [unescapeFrom?_outside_cons single _ apostrophe special.1, ih, rereadFrom,
          if_neg apostrophe, if_neg special.2, if_neg special.1]
        rfl

/-- What is between double quotes is read without them. -/
theorem contentMeaning?_escaped (s : Text) :
    Token.contentMeaning? (escaped s) = some (reread s) := by
  rw [Token.contentMeaning?, reread]
  by_cases special : '"' ∈ s ∨ '\\' ∈ s
  · have escapes : (escaped s).elem '\\' = true := List.elem_iff.mpr (mem_escaped special)
    rw [if_pos escapes, if_pos special]
    exact unescapeFrom?_escaped false s
  · rw [if_neg special, escaped_of_notMem special, if_neg]
    simpa using not_or.mp special |>.2

/-! ## What comes back -/

theorem count_cons_quote (s : Text) : ('"' :: s).count '\\' = s.count '\\' :=
  List.count_cons_of_ne (by decide)

/-- Reading again takes no backslash away. -/
theorem count_le_rereadFrom (single : Bool) (s : Text) :
    s.count '\\' ≤ (rereadFrom single s).count '\\' := by
  fun_induction rereadFrom single s with
  | case1 => exact le_refl _
  | case2 single rest ih => simpa using ih
  | case3 single rest _ ih =>
    simp only [List.count_cons_self]
    omega
  | case4 rest _ _ ih =>
    simp only [List.count_cons_self, count_cons_quote]
    omega
  | case5 rest =>
    simp only [List.count_cons_self, count_cons_quote]
    omega
  | case6 single c rest _ other _ ih => simpa [List.count_cons_of_ne other] using ih

/-- **The first escape** leaves a backslash too many, whatever comes behind it. -/
theorem count_lt_rereadFrom (single : Bool) {s : Text} (special : '"' ∈ s ∨ '\\' ∈ s) :
    s.count '\\' < (rereadFrom single s).count '\\' := by
  fun_induction rereadFrom single s with
  | case1 => simp at special
  | case2 single rest ih => simpa using ih (by simpa using special)
  | case3 single rest =>
    have more := count_le_rereadFrom single rest
    simp only [List.count_cons_self]
    omega
  | case4 rest =>
    have more := count_le_rereadFrom true rest
    simp only [List.count_cons_self, count_cons_quote]
    omega
  | case5 rest =>
    simp only [List.count_cons_self, count_cons_quote]
    omega
  | case6 single c rest _ other noQuote ih =>
    have later : '"' ∈ rest ∨ '\\' ∈ rest := by
      simpa [Ne.symm other, Ne.symm noQuote] using special
    simpa [List.count_cons_of_ne other] using ih later

/-- **A text comes back** exactly if it needs no escapes. -/
theorem reread_eq_iff {s : Text} : reread s = s ↔ '"' ∉ s ∧ '\\' ∉ s := by
  rw [← not_or, reread]
  split
  · next special =>
    refine iff_of_false (fun same => ?_) (not_not_intro special)
    have more := count_lt_rereadFrom false special
    rw [same] at more
    exact lt_irrefl _ more
  · next plain => exact iff_of_true rfl plain

end Text

/-! ## Escaped texts as expressions -/

/-- **An escaped text ends** at the quote behind it. -/
theorem Token.takeQuoted_escaped (s rest : Text) :
    takeQuoted '"' (Text.escaped s ++ '"' :: rest) = .ok (Text.escaped s) := by
  induction s with
  | nil => rfl
  | cons c s ih =>
    by_cases special : c = '"' ∨ c = '\\'
    · have noBreak : c ≠ '\n' := by rcases special with rfl | rfl <;> decide
      rw [Text.escaped_cons_of_special special, List.cons_append, List.cons_append, takeQuoted,
        if_neg noBreak, ih]
    · rw [Text.escaped_cons_of_plain special, List.cons_append]
      rw [not_or] at special
      rw [takeQuoted, if_neg special.1, ih]
      rintro d rest rfl
      exact absurd rfl special.2

namespace Expr

/-- **An escaped text between double quotes** is read as a text, but as the text itself only if it
holds neither a double quote nor a backslash. -/
theorem parse_quote_escaped (s : Text) :
    parse (Text.quote (Text.escaped s)) = .ok (.literal (.text (Text.reread s))) ∧
      (parse (Text.quote (Text.escaped s)) = .ok (.literal (.text s)) ↔ '"' ∉ s ∧ '\\' ∉ s) := by
  have tokens := tokenizeFrom_of_takeQuoted (Token.takeQuoted_escaped s [])
    (Text.contentMeaning?_escaped s) 0
  have read : parse (Text.quote (Text.escaped s)) = .ok (.literal (.text (Text.reread s))) := by
    rw [List.append_nil] at tokens
    rw [parse, tokenize, tokens]
    rfl
  refine ⟨read, ?_⟩
  rw [read, ← Text.reread_eq_iff, Except.ok.injEq, literal.injEq, Value.text.injEq]

/-- A backslash comes back as two of them, and a double quote as a backslash. -/
theorem escapes_come_back_changed :
    Text.quote (Text.escaped ['\\']) = ['"', '\\', '\\', '"'] ∧
      parse (Text.quote (Text.escaped ['\\'])) = .ok (.literal (.text ['\\', '\\'])) ∧
      Text.quote (Text.escaped ['"']) = ['"', '\\', '"', '"'] ∧
      parse (Text.quote (Text.escaped ['"'])) = .ok (.literal (.text ['\\'])) :=
  ⟨rfl, rfl, rfl, rfl⟩

end Expr

end Stencil
