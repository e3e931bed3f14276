import Stencil.Proofs.Expr.Delimited
import Stencil.Proofs.Expr.Grammar
import Stencil.Proofs.Expr.LeadingZero
import Stencil.Proofs.Expr.Truth
import Stencil.Proofs.Value.Bound

/-!
# A sum with an expression in parentheses

An expression that is read by itself is also read as it is written in parentheses behind a name and
a plus sign, with blanks around it, unless the sum has too many tokens or the parentheses nest one
level too deep. The two limits are the only reasons for which a phrase of the grammar is refused.

## Main definitions

* `Expr.sum name source`: the sum of a name and an expression in parentheses

## Main results

* `Grammar.Derives.parser_eq_error`: a phrase that is nested too deeply is refused as such
* `Expr.ofTokens_of_derives`: what becomes of a phrase
* `Expr.parse_sum`: how a sum is read
* `Assignment.value_sum`: the value of a sum
-/

namespace Stencil

/-! ## Phrases that are refused -/

namespace Grammar

open Stencil.Parser (joinMore chain operand binary)

theorem joinMore_op_of_error {operators : List BinaryOp} {next : Parser} {op : BinaryOp}
    (mem : op ∈ operators) {tokens : List Token} {error : ExprError}
    (failed : next tokens = .error error) (fuel : Nat) (e : Expr) :
    joinMore operators next (fuel + 1) e (.op op :: tokens) = .error error := by
  have found : Parser.isIn operators (.op op) = some op := by simp [Parser.isIn, mem]
  simp only [joinMore, found, failed]

/-- **A phrase that is nested too deeply** is refused for this reason, whatever follows it. -/
theorem Derives.parser_eq_error {symbol : Symbol} {tokens : List Token} {e : Expr} {n : Nat}
    (h : Derives symbol tokens e n) {depth : Nat} (deep : depth < n) (rest : List Token) :
    symbol.parser depth (tokens ++ rest) = .error (.tooDeep Parser.maxNesting) := by
  induction h generalizing depth rest with
  | single rule _ ih => rw [Symbol.parser_eq_chain rule, chain, ih deep]
  | @join symbol operators tighter op before after left right m n rule mem derived _ ihl ihr =>
    rw [List.append_assoc, List.cons_append]
    -- the left operand is read first; if it is not too deep itself, the right one is
    by_cases deepLeft : depth < m
    · exact ihl deepLeft _
    · have deepRight : depth < n := by omega
      have reached := derived.reaches (Nat.le_of_not_lt deepLeft)
      rw [Symbol.Reaches, rule] at reached
      obtain ⟨fuel, enough, same⟩ := reached (.op op :: (after ++ rest)) (Symbol.stops_op rule mem)
      rw [List.length_cons] at enough
      obtain ⟨fuel, rfl⟩ : ∃ k, fuel = k + 1 := ⟨fuel - 1, by omega⟩
      rw [same, joinMore_op_of_error mem (ihr deepRight rest)]
  | not _ ih =>
    cases depth with
    | zero => rfl
    | succ depth =>
      have failed := ih (Nat.lt_of_succ_lt_succ deep) rest
      change Parser.signed .not (operand depth) (_ ++ rest) = _
      rw [Parser.signed, show operand depth _ = _ from failed]
  | neg _ ih =>
    cases depth with
    | zero => rfl
    | succ depth =>
      have failed := ih (Nat.lt_of_succ_lt_succ deep) rest
      change Parser.signed .neg (operand depth) (_ ++ rest) = _
      rw [Parser.signed, show operand depth _ = _ from failed]
  | unsigned _ ih => exact ih deep rest
  | leaf => exact absurd deep (Nat.not_lt_zero depth)
  | parentheses _ ih =>
    cases depth with
    | zero => rfl
    | succ depth =>
      have failed := ih (Nat.lt_of_succ_lt_succ deep) (.closeParen :: rest)
      rw [List.append_assoc, List.cons_append]
      change Parser.closed (binary (operand depth)) _ = _
      rw [Parser.closed, List.singleton_append, show binary (operand depth) _ = _ from failed]

end Grammar

namespace Expr

open Grammar (Derives Symbol)

/-- **A phrase is read** as its tree, unless it is too long or nested too deeply. -/
theorem ofTokens_of_derives {tokens : List Token} {e : Expr} {n : Nat}
    (derived : Derives .or tokens e n) (some : tokens ≠ []) :
    ofTokens tokens =
      if maxTokens < tokens.length then .error (.tooLong maxTokens)
      else if Parser.maxNesting < n then .error (.tooDeep Parser.maxNesting)
      else .ok e := by
  rw [ofTokens, if_neg (by simpa using some)]
  by_cases long : maxTokens < tokens.length
  · rw [if_pos long, if_pos long]
  rw [if_neg long, if_neg long]
  by_cases deep : Parser.maxNesting < n
  · have refused := derived.parser_eq_error deep []
    rw [List.append_nil] at refused
    rw [if_pos deep, show Parser.binary (Parser.operand Parser.maxNesting) tokens = _ from refused]
  · have read := (derived.reaches (Nat.le_of_not_lt deep)).parser_eq Symbol.stops_nil
    rw [List.append_nil] at read
    rw [if_neg deep, show Parser.binary (Parser.operand Parser.maxNesting) tokens = _ from read]

/-! ## Sums -/

/-- The sum of a name and an expression in parentheses. -/
def sum (name source : Text) : Text := name ++ " + (".toList ++ source ++ [')']

/-- The tokens of a sum. -/
def sumTokens (name : Text) (tokens : List Token) : List Token :=
  [.name name, .op .add, .openParen] ++ tokens ++ [.closeParen]

theorem derives_sum {name : Text} {tokens : List Token} {e : Expr} {n : Nat}
    (derived : Derives .or tokens e n) :
    Derives .or (sumTokens name tokens) (.binary .add (.var name) e) (n + 1) := by
  have left : Derives .sum [.name name] (.var name) 0 :=
    .single rfl (.single rfl (.unsigned (.leaf rfl)))
  have right : Derives .product (.openParen :: tokens ++ [.closeParen]) e (n + 1) :=
    .single rfl (.unsigned (.parentheses derived))
  have joined : Derives .sum _ (.binary .add (.var name) e) (max 0 (n + 1)) :=
    .join rfl (List.mem_cons_self ..) left right
  rw [Nat.max_eq_right (Nat.zero_le _)] at joined
  exact .single rfl (.single rfl (.single rfl (.single rfl joined)))

/-- Blanks in front of a text hold no tokens. -/
theorem tokenizeFrom_spaces {front : Text} (blank : ∀ c ∈ front, c = ' ') (offset : Nat)
    (rest : Text) :
    ∃ offset', tokenizeFrom 0 offset (front ++ rest) = tokenizeFrom 0 offset' rest := by
  induction front generalizing offset with
  | nil => exact ⟨offset, rfl⟩
  | cons c front ih =>
    obtain ⟨same, later⟩ := List.forall_mem_cons.mp blank
    rw [List.cons_append, same, tokenizeFrom_space rfl]
    exact ih later _

/-- The parenthesis behind blanks is one token. -/
theorem tokenizeFrom_closing {back : Text} (blank : ∀ c ∈ back, c = ' ') (offset : Nat) :
    tokenizeFrom 0 offset (back ++ [')']) = .ok [.closeParen] := by
  obtain ⟨offset', same⟩ := tokenizeFrom_spaces blank offset [')']
  rw [same, tokenizeFrom_sign rfl fun _ => rfl]
  rfl

section Read

variable {name source front back : Text} (isName : Path.isIdentifier name = true)
  (ascii : name.IsAscii) (noKeyword : Token.ofWord name = .name name)
  (hfront : ∀ c ∈ front, c = ' ') (hback : ∀ c ∈ back, c = ' ')
include isName ascii noKeyword hfront hback

/-- **The tokens of a sum** are those of the expression inside of the parentheses. -/
theorem tokenize_sum {tokens : List Token} (read : tokenize source = .ok tokens) :
    tokenize (sum name (front ++ source ++ back)) = .ok (sumTokens name tokens) := by
  have parts : sum name (front ++ source ++ back) =
      name ++ ' ' :: '+' :: ' ' :: '(' :: (front ++ (source ++ (back ++ [')']))) := by
    simp [sum]
  -- behind the expression stands a blank or the closing parenthesis
  obtain ⟨d, rest, behind, delimits⟩ :
      ∃ d rest, back ++ [')'] = d :: rest ∧ Token.Delimits d := by
    cases back with
    | nil => exact ⟨')', [], rfl, Token.delimits_closing⟩
    | cons c back =>
      have blank : c = ' ' := hback c (List.mem_cons_self ..)
      exact ⟨c, back ++ [')'], rfl, blank ▸ Token.delimits_space⟩
  rw [tokenize, parts, tokenizeFrom_identifier isName ascii rfl, noKeyword, tokenizeFrom_space rfl,
    tokenizeFrom_sign rfl fun _ => rfl, tokenizeFrom_space rfl, tokenizeFrom_sign rfl fun _ => rfl]
  obtain ⟨offset, inside⟩ := tokenizeFrom_spaces hfront _ (source ++ (back ++ [')']))
  rw [inside, behind, tokenizeFrom_append_cons delimits (Nat.zero_le _) read, ← behind,
    tokenizeFrom_closing hback]
  rfl

/-- **A sum is read** as the sum of the name and the expression, unless it is too long or nested too
deeply. Blanks around the expression do not matter to either. -/
theorem parse_sum {e : Expr} (read : parse source = .ok e)
    (short : parse (sum name source) ≠ .error (.tooLong maxTokens))
    (shallow : parse (sum name source) ≠ .error (.tooDeep Parser.maxNesting)) :
    parse (sum name (front ++ source ++ back)) = .ok (.binary .add (.var name) e) := by
  obtain ⟨tokens, tokenized⟩ : ∃ tokens, tokenize source = .ok tokens := by
    cases found : tokenize source with
    | ok tokens => exact ⟨tokens, rfl⟩
    | error e =>
      rw [parse, found] at read
      cases read
  obtain ⟨-, -, n, -, derived⟩ := (parse_eq_ok_iff tokenized e).1.mp read
  have some : sumTokens name tokens ≠ [] := List.cons_ne_nil _ _
  have whole := ofTokens_of_derives (derives_sum derived) some
  have padded : parse (sum name (front ++ source ++ back)) = ofTokens (sumTokens name tokens) := by
    rw [parse, tokenize_sum isName ascii noKeyword hfront hback tokenized]
  have plain : parse (sum name source) = ofTokens (sumTokens name tokens) := by
    have same := tokenize_sum isName ascii noKeyword (List.forall_mem_nil _) (List.forall_mem_nil _)
      tokenized
    rw [List.nil_append, List.append_nil] at same
    rw [parse, same]
  rw [plain, whole] at short shallow
  rw [padded, whole]
  by_cases long : maxTokens < (sumTokens name tokens).length
  · rw [if_pos long] at short
    exact absurd rfl short
  · rw [if_neg long] at shallow ⊢
    by_cases deep : Parser.maxNesting < n + 1
    · rw [if_pos deep] at shallow
      exact absurd rfl shallow
    · rw [if_neg deep]

end Read

/-- What a name stands for is added to the value of the expression. -/
theorem eval_sum {lookup : Lookup} {name : Text} {value : Value} {e : Expr} {a b : Number}
    (bound : lookup.get? name = some value) (noText : value.isText = false)
    (stands : value.asNumber? = some a) (evaluated : e.eval lookup = .ok (.number b)) :
    (binary .add (.var name) e).eval lookup = .ok (.number (a.add b)) := by
  have first : (var name).eval lookup = .ok value := by
    have same : value.coerceNumeric = value := by
      cases value with
      | text s => cases noText
      | _ => rfl
    simp only [eval, Path.resolve?, bound, same]
  have numbers : Value.numbers? value (.number b) = some (a, b) := by
    rw [Value.numbers?, stands]
    rfl
  rw [eval_binary (by decide) first evaluated, BinaryOp.apply, noText, BinaryOp.arithmetic, numbers]
  rfl

end Expr

/-! ## Assignments of sums -/

namespace Assignment

variable {name source front back : Text}

theorem isTrimmed_sum (word : Path.IsWord name) (source : Text) :
    Text.IsTrimmed (Expr.sum name source) where
  first c first := by
    apply word.isTrimmed.first c
    rwa [Expr.sum, List.append_assoc, List.append_assoc,
      List.head?_append_of_ne_nil _ word.nonempty] at first
  last c last := by
    rw [Expr.sum, List.getLast?_concat] at last
    cases last
    rfl

/-- **The value of a sum.** Let an expression have a number for its value where the name has none.
Where the name is bound to what stands for a number, the sum of the two numbers is the value of the
sum, if it keeps the limits. -/
theorem value_sum {before behind : Lookup} {value : Value} {a b : Number}
    (adds : Lookup.Adds before behind name value) (noText : value.isText = false)
    (stands : value.asNumber? = some a) (isName : Path.isIdentifier name = true)
    (ascii : name.IsAscii) (noKeyword : Token.ofWord name = .name name)
    (trimmed : Text.IsTrimmed source) (hfront : ∀ c ∈ front, c = ' ') (hback : ∀ c ∈ back, c = ' ')
    (short : Expr.parse (Expr.sum name source) ≠ .error (.tooLong Expr.maxTokens))
    (shallow : Expr.parse (Expr.sum name source) ≠ .error (.tooDeep Parser.maxNesting))
    (evaluated : Assignment.value before source = .ok (.number b)) :
    Assignment.value behind (Expr.sum name (front ++ source ++ back)) =
      .ok (.number (a.add b)) := by
  rw [Assignment.value, Text.trim_of_isTrimmed trimmed] at evaluated
  split at evaluated
  · cases evaluated
  · next e read =>
    have bound : behind.get? name = some value := (adds.get?_eq name).trans (if_pos rfl)
    have parsed := Expr.parse_sum isName ascii noKeyword hfront hback read short shallow
    have word := Path.isWord_of_isIdentifier isName
    rw [Assignment.value, Text.trim_of_isTrimmed (isTrimmed_sum word _), parsed]
    exact Expr.eval_sum bound noText stands (adds.eval_of_ok isName evaluated)

end Assignment

end Stencil
