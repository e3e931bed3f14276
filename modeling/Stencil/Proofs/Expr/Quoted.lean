import Stencil.Proofs.Expr.Name

/-!
# Comparing a name with a quoted text

In an expression, a text between double quotes stands for itself if it holds neither a double quote
nor a backslash. A name that is bound to a text equals the same text in quotes, unless the text
spells a number: the name then stands for the number, which equals the one text that displays it.

## Main definitions

* `Condition.equality name s`: the comparison of a name with a quoted text

## Main results

* `tokenizeFrom_of_takeQuoted`: a quoted text is one token
* `Expr.parse_equality`: how the comparison is read
* `Condition.holds_equality`: whether it holds for the text that the name is bound to
-/

namespace Stencil

open Token (inName isSpace ofSigns? ofWord startsName takeName takeQuoted)

/-! ## Quoted texts -/

section Quoted

variable {content : Text}

/-- **A quoted text is one token**, which stands for the meaning of what is between the quotes, and
the tokens of what follows come behind it. -/
theorem tokenizeFrom_of_takeQuoted {meaning rest : Text}
    (closed : takeQuoted '"' (content ++ '"' :: rest) = .ok content)
    (means : Token.contentMeaning? content = some meaning) (offset : Nat) :
    tokenizeFrom 0 offset (Text.quote content ++ rest) =
      (tokenizeFrom 0 (offset + Text.byteLength (Text.quote content)) rest).map
        (.text '"' meaning :: ·) := by
  have parts : Text.quote content ++ rest = '"' :: (content ++ '"' :: rest) := by
    simp [Text.quote]
  have behind : content ++ '"' :: rest = (content ++ ['"']) ++ rest := by simp
  have read : Token.read offset '"' (content ++ '"' :: rest) =
      .ok (.text '"' meaning, (content ++ ['"']).length) := by
    simp [Token.read, startsName, Text.isQuote, closed, means]
  have noSpace : isSpace '"' = false := rfl
  have length : Text.byteLength (Text.quote content) =
      '"'.utf8Size + Text.byteLength (content ++ ['"']) := rfl
  rw [parts, tokenizeFrom, noSpace, if_neg Bool.false_ne_true, read]
  simp only [behind, tokenizeFrom_length, length, Nat.add_assoc]
  cases tokenizeFrom 0 _ rest <;> rfl

variable (noQuote : '"' ∉ content) (noEscape : '\\' ∉ content)

include noQuote noEscape

theorem takeQuoted_append (rest : Text) : takeQuoted '"' (content ++ '"' :: rest) = .ok content := by
  induction content with
  | nil =>
    rw [List.nil_append, takeQuoted, if_pos rfl]
    simp
  | cons c content ih =>
    rw [List.mem_cons, not_or] at noQuote noEscape
    obtain ⟨notQuote, noQuote⟩ := noQuote
    obtain ⟨notEscape, noEscape⟩ := noEscape
    rw [List.cons_append, takeQuoted, if_neg (Ne.symm notQuote), ih noQuote noEscape]
    rintro d rest rfl
    exact absurd rfl notEscape

/-- A text without quotes and backslashes stands for itself. -/
theorem tokenizeFrom_quote (rest : Text) (offset : Nat) :
    tokenizeFrom 0 offset (Text.quote content ++ rest) =
      (tokenizeFrom 0 (offset + Text.byteLength (Text.quote content)) rest).map
        (.text '"' content :: ·) := by
  have means : Token.contentMeaning? content = some content := by
    rw [Token.contentMeaning?, if_neg (by simpa using noEscape)]
  exact tokenizeFrom_of_takeQuoted (takeQuoted_append noQuote noEscape rest) means offset

end Quoted

/-! ## Blanks and signs -/

theorem tokenizeFrom_space {c : Char} (space : isSpace c = true) (offset : Nat) (rest : Text) :
    tokenizeFrom 0 offset (c :: rest) = tokenizeFrom 0 (offset + c.utf8Size) rest := by
  rw [tokenizeFrom, space, if_pos rfl]

theorem tokenizeFrom_equalitySign (offset : Nat) (rest : Text) :
    tokenizeFrom 0 offset ('=' :: '=' :: rest) =
      (tokenizeFrom 0 (offset + '='.utf8Size + '='.utf8Size) rest).map (.op .eq :: ·) := by
  have read : Token.read offset '=' ('=' :: rest) = .ok (.op .eq, 1) := rfl
  have noSpace : isSpace '=' = false := rfl
  rw [tokenizeFrom, noSpace, if_neg Bool.false_ne_true, read]
  simp only [tokenizeFrom]
  cases tokenizeFrom 0 _ rest <;> rfl

/-! ## The comparison -/

namespace Condition

/-- The comparison of a name with a text in double quotes. -/
def equality (name s : Text) : Text := name ++ " == ".toList ++ Text.quote s

theorem isTrimmed_equality {name : Text} (isName : Path.isIdentifier name = true) (s : Text) :
    Text.IsTrimmed (equality name s) where
  first c first := by
    have word := Path.isWord_of_isIdentifier isName
    apply word.isTrimmed.first c
    rwa [equality, List.append_assoc, List.head?_append_of_ne_nil _ word.nonempty] at first
  last c last := by
    have parts : equality name s = (name ++ " == ".toList ++ '"' :: s) ++ ['"'] := by
      simp [equality, Text.quote]
    rw [parts, List.getLast?_append_of_ne_nil _ (List.cons_ne_nil _ _)] at last
    cases last
    rfl

/-- A comparison is no lone word: it holds a blank. -/
theorem isLoneWord_equality (name s : Text) : isLoneWord (equality name s) = false := by
  have blank : ' ' ∈ equality name s := by simp [equality]
  have other : Path.isNameCharacter ' ' = false := rfl
  have names : (equality name s).all Path.isNameCharacter = false := by
    rw [List.all_eq_false]
    exact ⟨' ', blank, by simp [other]⟩
  simp [isLoneWord, names]

end Condition

open Condition (equality)

section Equality

variable {name s : Text} (isName : Path.isIdentifier name = true) (ascii : name.IsAscii)
  (noKeyword : ofWord name = .name name) (noQuote : '"' ∉ s) (noEscape : '\\' ∉ s)

include isName ascii noKeyword noQuote noEscape

theorem tokenize_equality :
    tokenize (equality name s) = .ok [.name name, .op .eq, .text '"' s] := by
  have last : ∀ offset, tokenizeFrom 0 offset (Text.quote s) = .ok [.text '"' s] := by
    intro offset
    have read := tokenizeFrom_quote noQuote noEscape [] offset
    rwa [List.append_nil] at read
  have parts : equality name s = name ++ ' ' :: '=' :: '=' :: ' ' :: Text.quote s := by
    simp [equality]
  rw [tokenize, parts, tokenizeFrom_identifier isName ascii rfl, noKeyword,
    tokenizeFrom_space rfl, tokenizeFrom_equalitySign, tokenizeFrom_space rfl, last]
  rfl

/-- **The comparison is read** as that of the name with the text. -/
theorem Expr.parse_equality :
    Expr.parse (equality name s) = .ok (.binary .eq (.var name) (.literal (.text s))) := by
  rw [Expr.parse, tokenize_equality isName ascii noKeyword noQuote noEscape]
  rfl

end Equality

/-- A name equals the text that it is bound to exactly if the text, where it spells a number, is the
one that displays this number. -/
theorem Value.looselyEqual_coerceNumeric (s : Text) :
    Value.looselyEqual (Value.text s).coerceNumeric (.text s) =
      (Number.literal? s).all fun n => n.display == s := by
  rw [Value.coerceNumeric]
  cases Number.literal? s with
  | none => exact beq_self_eq_true s
  | some n => rfl

namespace Condition

/-- **A name compared with the text that it is bound to.** A source that is itself bound is as true
as its value. Every other comparison holds, unless the text spells a number and is not the
text that displays this number. -/
theorem holds_equality {lookup : Lookup} {name s : Text}
    (isName : Path.isIdentifier name = true) (ascii : name.IsAscii)
    (noKeyword : ofWord name = .name name) (bound : lookup.get? name = some (.text s))
    (noQuote : '"' ∉ s) (noEscape : '\\' ∉ s) :
    holds lookup (equality name s) = .ok
      (match lookup.get? (equality name s) with
        | some value => value.isTruthy
        | none => (Number.literal? s).all fun n => n.display == s) := by
  rw [holds, Text.trim_of_isTrimmed (isTrimmed_equality isName s)]
  cases lookup.get? (equality name s) with
  | some value => rfl
  | none =>
    rw [← Value.looselyEqual_coerceNumeric]
    simp only [isLoneWord_equality, Bool.false_eq_true, if_false,
      Expr.parse_equality isName ascii noKeyword noQuote noEscape, Expr.eval, Path.resolve?, bound,
      reduceCtorEq, false_and, BinaryOp.apply, Except.map]
    cases Value.looselyEqual _ _ <;> rfl

/-- A price without a trailing zero equals itself. -/
theorem holds_equality_of_price :
    let lookup : Lookup := Scope.lookup [("x".toList, .text "1.5".toList)]
    Path.isIdentifier "x".toList = true ∧ Text.IsAscii "x".toList ∧
      ofWord "x".toList = .name "x".toList ∧
      lookup.get? "x".toList = some (.text "1.5".toList) ∧
      '"' ∉ "1.5".toList ∧ '\\' ∉ "1.5".toList ∧
      lookup.get? (equality "x".toList "1.5".toList) = none ∧
      holds lookup (equality "x".toList "1.5".toList) = .ok true := by
  intro lookup
  have isName : Path.isIdentifier "x".toList = true := rfl
  have ascii : Text.IsAscii "x".toList := by decide
  have noKeyword : ofWord "x".toList = .name "x".toList := rfl
  have bound : lookup.get? "x".toList = some (.text "1.5".toList) := rfl
  have noQuote : '"' ∉ "1.5".toList := by decide
  have noEscape : '\\' ∉ "1.5".toList := by decide
  have free : lookup.get? (equality "x".toList "1.5".toList) = none := rfl
  have displayed : (Number.literal? "1.5".toList).all
      (fun n => n.display == "1.5".toList) = true := by decide +kernel
  have law := holds_equality isName ascii noKeyword bound noQuote noEscape
  rw [free] at law
  exact ⟨isName, ascii, noKeyword, bound, noQuote, noEscape, free, law.trans (congrArg _ displayed)⟩

/-- **A text need not equal itself in quotes**: a price with a trailing zero does not, nor does a
text where the comparison itself is bound to an empty value. -/
theorem trailing_zero_differs :
    let price : Lookup := Scope.lookup [("x".toList, .text "1.50".toList)]
    let shadowed : Lookup :=
      Scope.lookup [("x".toList, .text "a".toList), (equality "x".toList "a".toList, .null)]
    price.get? "x".toList = some (.text "1.50".toList) ∧
      price.get? (equality "x".toList "1.50".toList) = none ∧
      holds price (equality "x".toList "1.50".toList) = .ok false ∧
      shadowed.get? "x".toList = some (.text "a".toList) ∧
      holds shadowed (equality "x".toList "a".toList) = .ok false := by
  intro price shadowed
  exact ⟨rfl, rfl, by decide +kernel, rfl, rfl⟩

end Condition

end Stencil
