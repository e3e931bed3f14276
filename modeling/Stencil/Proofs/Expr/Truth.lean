import Stencil.Proofs.Expr.Name

/-!
# Names as conditions

A condition that is nothing but a known name is as true as the value of the name. In parentheses the
name is read and evaluated like any other expression, where a text that spells a number stands for
this number. The two agree on every value but one kind: a text that spells zero is empty by itself
only if it is written `0`, while the number that it spells is always empty.

## Main definitions

* `Value.spellsZero value`: the value is a text that spells zero
* `Condition.parenthesized name`: the name in parentheses

## Main results

* `Value.isTruthy_coerceNumeric`: what reading a text as a number does to its truth
* `Expr.parse_parenthesized`: a name in parentheses is read as the name
* `Condition.holds_parenthesized`: when a name in parentheses is as true as the name alone
-/

namespace Stencil

/-! ## Truth of texts and of numbers -/

namespace Value

/-- The value is a text that spells zero. -/
def spellsZero : Value → Bool
  | .text s => (Number.literal? s).any Number.isZero
  | _ => false

/-- Among the texts that spell a number, only `0` is empty by itself. -/
theorem isTruthy_text_of_literal? {s : Text} {n : Number} (spelled : Number.literal? s = some n) :
    (Value.text s).isTruthy = !(s == ['0']) := by
  have nonempty : s ≠ [] := by
    rintro rfl
    cases spelled
  simp [isTruthy, isEmpty, nonempty]

/-- The digit zero spells a zero. -/
theorem isZero_of_literal?_zero {n : Number} (spelled : Number.literal? ['0'] = some n) :
    n.isZero = true := by
  have zero : (Number.literal? ['0']).all Number.isZero = true := by decide +kernel
  rwa [spelled] at zero

/-- **Reading a text as a number** makes it false if it spells zero, and keeps its truth if not. -/
theorem isTruthy_coerceNumeric (value : Value) :
    value.coerceNumeric.isTruthy = (value.isTruthy && !value.spellsZero) := by
  cases value with
  | text s =>
    cases spelled : Number.literal? s with
    | none => simp [coerceNumeric, spellsZero, spelled]
    | some n =>
      rw [isTruthy_text_of_literal? spelled]
      simp only [coerceNumeric, spellsZero, spelled, Option.any_some, isTruthy, isEmpty]
      by_cases digit : s = ['0']
      · subst digit
        simp [isZero_of_literal?_zero spelled]
      · simp [digit]
  | _ => simp [coerceNumeric, spellsZero]

/-- A text that spells zero is true by itself, unless it is written `0`. -/
theorem isTruthy_of_spellsZero {value : Value} (zero : value.spellsZero = true)
    (other : value ≠ .text ['0']) : value.isTruthy = true := by
  cases value with
  | text s =>
    cases spelled : Number.literal? s with
    | none => simp [spellsZero, spelled] at zero
    | some n =>
      have different : s ≠ ['0'] := fun same => other (congrArg Value.text same)
      simp [isTruthy_text_of_literal? spelled, different]
  | _ => cases zero

end Value

/-! ## Names in parentheses -/

/-- **A sign is one token** where no sign of two characters starts with it, and the tokens of what
follows come behind it. -/
theorem tokenizeFrom_sign {c : Char} {token : Token} (sign : Token.ofSign? c = some token)
    (single : ∀ d, Token.ofSigns? c d = none) (offset : Nat) (rest : Text) :
    tokenizeFrom 0 offset (c :: rest) =
      (tokenizeFrom 0 (offset + c.utf8Size) rest).map (token :: ·) := by
  obtain ⟨space, starts, digit, quote⟩ : Token.isSpace c = false ∧ Token.startsName c = false ∧
      c.isDigit = false ∧ Text.isQuote c = false := by
    refine (?_ : ∀ entry ∈ _, Token.isSpace entry.1 = false ∧ Token.startsName entry.1 = false ∧
      entry.1.isDigit = false ∧ Text.isQuote entry.1 = false) _ (Token.mem_of_lookup_eq_some sign)
    decide
  have pair : rest.head?.bind (Token.ofSigns? c) = none := by
    cases rest with
    | nil => rfl
    | cons d rest => exact single d
  have read : Token.read offset c rest = .ok (token, 0) := by
    simp only [Token.read, starts, digit, quote, Bool.false_eq_true, if_false, pair, sign]
  simp only [tokenizeFrom, space, Bool.false_eq_true, if_false, read]
  cases tokenizeFrom 0 _ rest <;> rfl

namespace Condition

/-- A name in parentheses. -/
def parenthesized (name : Text) : Text := '(' :: name ++ [')']

theorem isTrimmed_parenthesized (name : Text) : Text.IsTrimmed (parenthesized name) where
  first c first := by
    cases first
    rfl
  last c last := by
    rw [parenthesized, List.getLast?_append_of_ne_nil _ (List.cons_ne_nil _ _)] at last
    cases last
    rfl

/-- A parenthesis stands in no word. -/
theorem isLoneWord_parenthesized (name : Text) : isLoneWord (parenthesized name) = false := by
  have other : Path.isNameCharacter '(' = false := rfl
  simp [isLoneWord, parenthesized, other]

end Condition

open Condition (parenthesized)

/-- **A name in parentheses is read** as the name. -/
theorem Expr.parse_parenthesized {name : Text} (isName : Path.isIdentifier name = true)
    (ascii : name.IsAscii) (noKeyword : Token.ofWord name = .name name) :
    Expr.parse (parenthesized name) = .ok (.var name) := by
  have tokens : tokenize (parenthesized name) = .ok [.openParen, .name name, .closeParen] := by
    rw [tokenize, parenthesized, List.cons_append, tokenizeFrom_sign rfl fun _ => rfl,
      tokenizeFrom_identifier isName ascii rfl, noKeyword, tokenizeFrom_sign rfl fun _ => rfl]
    rfl
  rw [Expr.parse, tokens]
  rfl

namespace Condition

/-- **A name alone and in parentheses.** A known name alone is as true as its value. If the name in
parentheses is itself known, it is as true as what it is bound to. Otherwise it is read as an
expression, and is as true as the name alone unless the value is a text that spells zero and is not
written `0`: the name alone is then true, and false in parentheses. -/
theorem holds_parenthesized {lookup : Lookup} {name : Text} {value : Value}
    (isName : Path.isIdentifier name = true) (ascii : name.IsAscii)
    (noKeyword : Token.ofWord name = .name name) (bound : lookup.get? name = some value) :
    holds lookup name = .ok value.isTruthy ∧
      (∀ other, lookup.get? (parenthesized name) = some other →
        holds lookup (parenthesized name) = .ok other.isTruthy) ∧
      (lookup.get? (parenthesized name) = none →
        (holds lookup (parenthesized name) = holds lookup name ↔
          (value.spellsZero = true → value = .text ['0'])) ∧
        (value.spellsZero = true → value ≠ .text ['0'] →
          holds lookup name = .ok true ∧ holds lookup (parenthesized name) = .ok false)) := by
  have alone : holds lookup name = .ok value.isTruthy := by
    simp only [holds, Text.trim_of_isTrimmed (Path.isWord_of_isIdentifier isName).isTrimmed, bound]
  have trimmed := Text.trim_of_isTrimmed (isTrimmed_parenthesized name)
  refine ⟨alone, fun other known => by simp only [holds, trimmed, known], fun unknown => ?_⟩
  have evaluated : holds lookup (parenthesized name) =
      .ok (value.isTruthy && !value.spellsZero) := by
    rw [← Value.isTruthy_coerceNumeric]
    simp only [holds, trimmed, unknown, isLoneWord_parenthesized, Bool.false_eq_true, if_false,
      Expr.parse_parenthesized isName ascii noKeyword, Expr.eval, Path.resolve?, bound, Except.map]
  rw [alone, evaluated]
  cases zero : value.spellsZero with
  | false => simp
  | true =>
    by_cases digit : value = .text ['0']
    · subst digit
      have empty : (Value.text ['0']).isTruthy = false := rfl
      simp [empty]
    · have holds := Value.isTruthy_of_spellsZero zero digit
      simp [holds, digit]

/-- A name that is bound to the digit zero is false alone and in parentheses. -/
theorem holds_parenthesized_of_digit :
    let lookup : Lookup := Scope.lookup [("x".toList, .text ['0'])]
    Path.isIdentifier "x".toList = true ∧ Text.IsAscii "x".toList ∧
      Token.ofWord "x".toList = .name "x".toList ∧
      lookup.get? "x".toList = some (.text ['0']) ∧
      lookup.get? (parenthesized "x".toList) = none ∧
      holds lookup "x".toList = .ok false ∧
      holds lookup (parenthesized "x".toList) = .ok false := by
  intro lookup
  have isName : Path.isIdentifier "x".toList = true := rfl
  have ascii : Text.IsAscii "x".toList := by decide
  have noKeyword : Token.ofWord "x".toList = .name "x".toList := rfl
  have bound : lookup.get? "x".toList = some (.text ['0']) := rfl
  have unknown : lookup.get? (parenthesized "x".toList) = none := rfl
  obtain ⟨alone, -, together⟩ := holds_parenthesized isName ascii noKeyword bound
  have same := (together unknown).1.mpr fun _ => rfl
  exact ⟨isName, ascii, noKeyword, bound, unknown, alone, same.trans alone⟩

/-- **A name need not be as true in parentheses** as it is alone: one that is bound to the text
`0.0` is true alone and false in parentheses, and so is any true name where the name in parentheses
is itself bound to an empty value. -/
theorem zero_with_places_differs :
    let price : Lookup := Scope.lookup [("x".toList, .text "0.0".toList)]
    let shadowed : Lookup := Scope.lookup [("x".toList, .bool true), ("(x)".toList, .null)]
    price.get? "x".toList = some (.text "0.0".toList) ∧
      price.get? (parenthesized "x".toList) = none ∧
      holds price "x".toList = .ok true ∧
      holds price (parenthesized "x".toList) = .ok false ∧
      shadowed.get? "x".toList = some (.bool true) ∧
      holds shadowed "x".toList = .ok true ∧
      holds shadowed (parenthesized "x".toList) = .ok false := by
  intro price shadowed
  exact ⟨rfl, rfl, rfl, by decide +kernel, rfl, rfl, rfl⟩

end Condition

end Stencil
