import Mathlib.Data.List.Infix
import Stencil.Expr.Parse

/-!
# The grammar of expressions

The grammar has a symbol for each level of operators. A symbol that joins operands does so to
the left: its left operand is a phrase of the symbol itself and its right one a phrase of the
next symbol, which binds more tightly. A phrase comes with its tree, in which parentheses leave
no trace, and with its nesting, the largest number of parentheses and signs around a token.

## Main definitions

* `Grammar.Symbol`, `Grammar.Symbol.joins?`: the symbols and the operators that they join by
* `Grammar.Derives symbol tokens e nesting`: `tokens` are a phrase of `symbol` with the tree `e`
* `Grammar.Symbol.parser`: the parser of a symbol

## Main results

* `Grammar.Derives.reaches`: the parser of a symbol reads its phrases
* `Grammar.recognises_operand`, `Grammar.recognises_binary`: what the parser reads are phrases
* `Grammar.Derives.unique`: a phrase has one tree
* `Expr.parse_eq_ok_iff`: a text is read as an expression exactly if its tokens are a phrase
  that is neither too long nor nested too deeply
-/

namespace Stencil

namespace Grammar

open Stencil.Parser (joinMore chain operand binary)

/-! ## Phrases -/

/-- The symbols of the grammar, the most loosely binding first. -/
inductive Symbol where
  | or
  | and
  | equality
  | comparison
  | sum
  | product
  | unary
  | primary
  deriving DecidableEq, Repr

/-- The operators by which a symbol joins operands, and the symbol of the operands. -/
def Symbol.joins? : Symbol → Option (List BinaryOp × Symbol)
  | .or => some ([.or], .and)
  | .and => some ([.and], .equality)
  | .equality => some ([.eq, .notEq], .comparison)
  | .comparison => some ([.lt, .ltEq, .gt, .gtEq], .sum)
  | .sum => some ([.add, .sub], .product)
  | .product => some ([.mul, .div, .rem], .unary)
  | .unary | .primary => none

/-- The tree of a token that is an operand by itself. -/
def leaf? : Token → Option Expr
  | .number value => some (.literal (.number value))
  | .text _ content => some (.literal (.text content))
  | .trueWord => some (.literal (.bool true))
  | .falseWord => some (.literal (.bool false))
  | .nullWord => some (.literal .null)
  | .name path => some (.var path)
  | .op _ | .not | .openParen | .closeParen => none

/-- `Derives symbol tokens e nesting`: the grammar derives `tokens` from `symbol`, `e` is the
tree of the derivation, and some token has `nesting` parentheses and signs around it, but none
has more. -/
inductive Derives : Symbol → List Token → Expr → Nat → Prop where
  /-- One operand. -/
  | single {symbol operators tighter tokens e n}
    (rule : symbol.joins? = some (operators, tighter)) :
    Derives tighter tokens e n → Derives symbol tokens e n
  /-- A further operand, joined to the left. -/
  | join {symbol operators tighter op before after left right m n}
    (rule : symbol.joins? = some (operators, tighter)) (mem : op ∈ operators) :
    Derives symbol before left m → Derives tighter after right n →
      Derives symbol (before ++ .op op :: after) (.binary op left right) (max m n)
  /-- A negation. -/
  | not {tokens e n} :
    Derives .unary tokens e n → Derives .unary (.not :: tokens) (.unary .not e) (n + 1)
  /-- A sign. -/
  | neg {tokens e n} :
    Derives .unary tokens e n → Derives .unary (.op .sub :: tokens) (.unary .neg e) (n + 1)
  /-- An operand without a sign. -/
  | unsigned {tokens e n} : Derives .primary tokens e n → Derives .unary tokens e n
  /-- A literal or a path. -/
  | leaf {token e} (h : leaf? token = some e) : Derives .primary [token] e 0
  /-- An expression in parentheses. -/
  | parentheses {tokens e n} :
    Derives .or tokens e n → Derives .primary (.openParen :: tokens ++ [.closeParen]) e (n + 1)

/-! ## The parsers of the symbols -/

namespace Symbol

/-- The levels of operators at a symbol and below. -/
def levels : Symbol → List (List BinaryOp)
  | .or => Parser.levels
  | .and => Parser.levels.drop 1
  | .equality => Parser.levels.drop 2
  | .comparison => Parser.levels.drop 3
  | .sum => Parser.levels.drop 4
  | .product => Parser.levels.drop 5
  | .unary | .primary => []

/-- The parser of a symbol, with a bound on the nesting. -/
def parser (symbol : Symbol) (depth : Nat) : Parser :=
  symbol.levels.foldr chain (operand depth)

/-- No operator at the symbol or below stands at the front of `rest`. -/
def Stops (symbol : Symbol) (rest : List Token) : Prop :=
  ∀ op ∈ symbol.levels.flatten, rest.head? ≠ some (.op op)

variable {symbol tighter : Symbol} {operators : List BinaryOp} {rest : List Token}

theorem levels_eq_cons (rule : symbol.joins? = some (operators, tighter)) :
    symbol.levels = operators :: tighter.levels := by
  cases symbol <;> cases rule <;> rfl

theorem parser_eq_chain (rule : symbol.joins? = some (operators, tighter)) (depth : Nat) :
    symbol.parser depth = chain operators (tighter.parser depth) := by
  rw [parser, levels_eq_cons rule]
  rfl

/-- An operator belongs to one symbol only. -/
theorem notMem_levels_flatten {op : BinaryOp} (rule : symbol.joins? = some (operators, tighter))
    (mem : op ∈ operators) : op ∉ tighter.levels.flatten := by
  cases symbol <;> cases rule <;> revert op <;> decide

theorem stops_iff (rule : symbol.joins? = some (operators, tighter)) :
    symbol.Stops rest ↔ (∀ op ∈ operators, rest.head? ≠ some (.op op)) ∧ tighter.Stops rest := by
  simp only [Stops, levels_eq_cons rule, List.flatten_cons, List.forall_mem_append]

theorem stops_nil : symbol.Stops [] := by
  simp [Stops]

theorem stops_closeParen : symbol.Stops (.closeParen :: rest) := by
  simp [Stops]

/-- The operands of a symbol end where one of its operators follows. -/
theorem stops_op {op : BinaryOp} (rule : symbol.joins? = some (operators, tighter))
    (mem : op ∈ operators) : tighter.Stops (.op op :: rest) := by
  intro other found same
  rw [List.head?_cons, Option.some.injEq, Token.op.injEq] at same
  exact notMem_levels_flatten rule mem (same ▸ found)

end Symbol

/-! ## Joining operands -/

section Join

variable {operators : List BinaryOp} {next : Parser} {e : Expr} {rest : List Token}

theorem joinMore_of_stops (stops : ∀ op ∈ operators, rest.head? ≠ some (.op op)) (fuel : Nat) :
    joinMore operators next fuel e rest = .ok (e, rest) := by
  cases fuel with
  | zero => rfl
  | succ fuel =>
    cases rest with
    | nil => rfl
    | cons token rest =>
      have none : Parser.isIn operators token = none := by
        cases token with
        | op op =>
          have absent : op ∉ operators := fun mem => stops op mem rfl
          simp [Parser.isIn, absent]
        | _ => rfl
      rw [joinMore, none]

theorem joinMore_op {op : BinaryOp} (mem : op ∈ operators) {right : Expr} {tokens : List Token}
    (read : next tokens = .ok (right, rest)) (fuel : Nat) :
    joinMore operators next (fuel + 1) e (.op op :: tokens) =
      joinMore operators next fuel (.binary op e right) rest := by
  have found : Parser.isIn operators (.op op) = some op := by simp [Parser.isIn, mem]
  simp only [joinMore, found, read]

theorem eq_op_of_isIn {token : Token} {op : BinaryOp}
    (found : Parser.isIn operators token = some op) : token = .op op ∧ op ∈ operators := by
  cases token with
  | op other =>
    rw [Parser.isIn] at found
    split at found
    · next mem =>
      cases found
      exact ⟨rfl, List.contains_iff_mem.mp mem⟩
    · cases found
  | _ => cases found

end Join

/-! ## Operands -/

theorem operand_leaf {token : Token} {e : Expr} (h : leaf? token = some e) (depth : Nat)
    (rest : List Token) : operand depth (token :: rest) = .ok (e, rest) := by
  cases token with
  | number | text | trueWord | falseWord | nullWord | name => cases h; cases depth <;> rfl
  | op | not | openParen | closeParen => cases h

/-- An operand starts with a sign, with a parenthesis, or is a single token. -/
theorem operand_cases {depth : Nat} {tokens rest : List Token} {e : Expr}
    (read : operand depth tokens = .ok (e, rest)) :
    (∃ token, tokens = token :: rest ∧ leaf? token = some e) ∨
      ∃ inner more, depth = inner + 1 ∧
        ((tokens = .not :: more ∧ Parser.signed .not (operand inner) more = .ok (e, rest)) ∨
          (tokens = .op .sub :: more ∧ Parser.signed .neg (operand inner) more = .ok (e, rest)) ∨
          (tokens = .openParen :: more ∧
            Parser.closed (binary (operand inner)) more = .ok (e, rest))) := by
  rcases tokens with - | ⟨token, tokens⟩
  · cases depth <;> cases read
  -- only a token behind which another operand is read uses up a level
  cases token with
  | number | text | trueWord | falseWord | nullWord | name =>
    cases depth <;> cases read <;> exact .inl ⟨_, rfl, rfl⟩
  | closeParen => cases depth <;> cases read
  | not =>
    cases depth with
    | zero => cases read
    | succ inner => exact .inr ⟨inner, tokens, rfl, .inl ⟨rfl, read⟩⟩
  | openParen =>
    cases depth with
    | zero => cases read
    | succ inner => exact .inr ⟨inner, tokens, rfl, .inr (.inr ⟨rfl, read⟩)⟩
  | op op =>
    by_cases sign : op = .sub
    · subst sign
      cases depth with
      | zero => cases read
      | succ inner => exact .inr ⟨inner, tokens, rfl, .inr (.inl ⟨rfl, read⟩)⟩
    · cases depth <;> simp [operand, sign] at read

/-! ## Phrases are read -/

/-- From `tokens` the parser of the symbol gets to `e`. If it is one that joins operands, it then
goes on with what follows, with as much fuel as it may need. -/
def Symbol.Reaches (symbol : Symbol) (depth : Nat) (tokens : List Token) (e : Expr) : Prop :=
  match symbol.joins? with
  | none => ∀ rest, symbol.parser depth (tokens ++ rest) = .ok (e, rest)
  | some (operators, tighter) => ∀ rest, tighter.Stops rest →
    ∃ fuel, rest.length ≤ fuel ∧ symbol.parser depth (tokens ++ rest) =
      joinMore operators (tighter.parser depth) fuel e rest

/-- A phrase is read up to where it stops. -/
theorem Symbol.Reaches.parser_eq {symbol : Symbol} {depth : Nat} {tokens rest : List Token}
    {e : Expr} (h : symbol.Reaches depth tokens e) (stops : symbol.Stops rest) :
    symbol.parser depth (tokens ++ rest) = .ok (e, rest) := by
  cases rule : symbol.joins? with
  | none =>
    simp only [Reaches, rule] at h
    exact h rest
  | some join =>
    obtain ⟨operators, tighter⟩ := join
    simp only [Reaches, rule] at h
    obtain ⟨here, below⟩ := (Symbol.stops_iff rule).mp stops
    obtain ⟨fuel, -, same⟩ := h rest below
    rw [same, joinMore_of_stops here]

/-- **Phrases are read** by the parser of their symbol, if they are not nested too deeply. -/
theorem Derives.reaches {symbol : Symbol} {tokens : List Token} {e : Expr} {n : Nat}
    (h : Derives symbol tokens e n) {depth : Nat} (le : n ≤ depth) :
    symbol.Reaches depth tokens e := by
  induction h generalizing depth with
  | @single symbol operators tighter tokens e n rule _ ih =>
    rw [Symbol.Reaches, rule]
    intro rest stops
    refine ⟨rest.length, Nat.le_refl _, ?_⟩
    rw [Symbol.parser_eq_chain rule, chain, (ih le).parser_eq stops]
  | @join symbol operators tighter op before after left right m n rule mem _ _ ihl ihr =>
    have reached := ihl (Nat.le_trans (Nat.le_max_left m n) le)
    rw [Symbol.Reaches, rule] at reached ⊢
    intro rest stops
    -- the left operand stops at the operator, and its fuel pays for the right operand
    obtain ⟨fuel, enough, same⟩ :=
      reached (.op op :: (after ++ rest)) (Symbol.stops_op rule mem)
    simp only [List.length_cons, List.length_append] at enough
    obtain ⟨fuel, rfl⟩ : ∃ k, fuel = k + 1 := ⟨fuel - 1, by omega⟩
    have read := (ihr (Nat.le_trans (Nat.le_max_right m n) le)).parser_eq stops
    refine ⟨fuel, by omega, ?_⟩
    rw [List.append_assoc, List.cons_append, same, joinMore_op mem read]
  | not _ ih =>
    obtain ⟨depth, rfl⟩ : ∃ k, depth = k + 1 := ⟨depth - 1, by omega⟩
    intro rest
    have read := (ih (Nat.le_of_succ_le_succ le)) rest
    change Parser.signed .not (operand depth) (_ ++ rest) = _
    rw [Parser.signed, show operand depth _ = _ from read]
  | neg _ ih =>
    obtain ⟨depth, rfl⟩ : ∃ k, depth = k + 1 := ⟨depth - 1, by omega⟩
    intro rest
    have read := (ih (Nat.le_of_succ_le_succ le)) rest
    change Parser.signed .neg (operand depth) (_ ++ rest) = _
    rw [Parser.signed, show operand depth _ = _ from read]
  | unsigned _ ih => exact ih le
  | parentheses _ ih =>
    obtain ⟨depth, rfl⟩ : ∃ k, depth = k + 1 := ⟨depth - 1, by omega⟩
    intro rest
    have stops : Symbol.or.Stops (.closeParen :: rest) := Symbol.stops_closeParen
    have read := (ih (Nat.le_of_succ_le_succ le)).parser_eq stops
    rw [List.append_assoc, List.cons_append]
    change Parser.closed (binary (operand depth)) _ = _
    rw [Parser.closed, List.singleton_append, show binary (operand depth) _ = _ from read]
  | leaf h => exact fun rest => operand_leaf h depth rest

/-- **A phrase has one tree.** -/
theorem Derives.unique {symbol : Symbol} {tokens : List Token} {e e' : Expr} {n n' : Nat}
    (h : Derives symbol tokens e n) (h' : Derives symbol tokens e' n') : e = e' := by
  -- both trees are what the parser returns, if it allows the deeper nesting
  have read := (h.reaches (Nat.le_max_left n n')).parser_eq Symbol.stops_nil
  have read' := (h'.reaches (Nat.le_max_right n n')).parser_eq Symbol.stops_nil
  rw [read, Except.ok.injEq, Prod.mk.injEq] at read'
  exact read'.1

/-! ## What is read is a phrase -/

/-- What `p` reads are phrases of `symbol` with a bound on their nesting. -/
def Recognises (p : Parser) (symbol : Symbol) (depth : Nat) : Prop :=
  ∀ tokens e rest, p tokens = .ok (e, rest) →
    ∃ phrase n, tokens = phrase ++ rest ∧ n ≤ depth ∧ Derives symbol phrase e n

theorem recognises_joinMore {symbol tighter : Symbol} {operators : List BinaryOp}
    (rule : symbol.joins? = some (operators, tighter)) {next : Parser} {depth : Nat}
    (operands : Recognises next tighter depth) {fuel : Nat} {before tokens rest : List Token}
    {left e : Expr} {m : Nat} (le : m ≤ depth) (derived : Derives symbol before left m)
    (read : joinMore operators next fuel left tokens = .ok (e, rest)) :
    ∃ phrase n, before ++ tokens = phrase ++ rest ∧ n ≤ depth ∧ Derives symbol phrase e n := by
  induction fuel generalizing before tokens left m with
  | zero =>
    cases read
    exact ⟨before, m, rfl, le, derived⟩
  | succ fuel ih =>
    rcases tokens with - | ⟨token, tokens⟩
    · cases read
      exact ⟨before, m, rfl, le, derived⟩
    rw [joinMore] at read
    split at read
    · cases read
      exact ⟨before, m, rfl, le, derived⟩
    next op found =>
    obtain ⟨rfl, mem⟩ := eq_op_of_isIn found
    split at read
    · cases read
    next right more read_right =>
    obtain ⟨after, n, rfl, le_right, derived_right⟩ := operands _ _ _ read_right
    have joined := Derives.join rule mem derived derived_right
    obtain ⟨phrase, k, same, le, derived⟩ := ih (Nat.max_le.mpr ⟨le, le_right⟩) joined read
    exact ⟨phrase, k, by simpa using same, le, derived⟩

theorem recognises_chain {symbol tighter : Symbol} {operators : List BinaryOp}
    (rule : symbol.joins? = some (operators, tighter)) {next : Parser} {depth : Nat}
    (operands : Recognises next tighter depth) :
    Recognises (chain operators next) symbol depth := by
  intro tokens e rest read
  rw [chain] at read
  split at read
  · cases read
  next left more read_left =>
  obtain ⟨before, n, rfl, le, derived⟩ := operands _ _ _ read_left
  exact recognises_joinMore rule operands le (.single rule derived) read

/-- All levels of operators, given the operands. -/
theorem recognises_binary {depth : Nat} (operands : Recognises (operand depth) .unary depth) :
    Recognises (binary (operand depth)) .or depth := by
  have product : Recognises (Symbol.product.parser depth) .product depth :=
    recognises_chain rfl operands
  have comparison : Recognises (Symbol.comparison.parser depth) .comparison depth :=
    recognises_chain rfl (recognises_chain rfl product)
  exact recognises_chain rfl (recognises_chain rfl (recognises_chain rfl comparison))

theorem recognises_signed {op : UnaryOp} {depth : Nat} {tokens rest : List Token} {e : Expr}
    (operands : Recognises (operand depth) .unary depth)
    (read : Parser.signed op (operand depth) tokens = .ok (e, rest)) :
    ∃ phrase n inner, tokens = phrase ++ rest ∧ n ≤ depth ∧ e = .unary op inner ∧
      Derives .unary phrase inner n := by
  rw [Parser.signed] at read
  split at read
  · cases read
  next inner rest read_inner =>
  cases read
  obtain ⟨phrase, n, same, le, derived⟩ := operands _ _ _ read_inner
  exact ⟨phrase, n, inner, same, le, rfl, derived⟩

theorem recognises_closed {depth : Nat} {tokens rest : List Token} {e : Expr}
    (operands : Recognises (operand depth) .unary depth)
    (read : Parser.closed (binary (operand depth)) tokens = .ok (e, rest)) :
    ∃ phrase n, tokens = phrase ++ .closeParen :: rest ∧ n ≤ depth ∧ Derives .or phrase e n := by
  rw [Parser.closed] at read
  split at read
  · cases read
  · next inner rest read_inner =>
    cases read
    exact recognises_binary operands _ _ _ read_inner
  · cases read
  · cases read

/-- **What is read are phrases**, with the nesting that the parser allows. -/
theorem recognises_operand (depth : Nat) : Recognises (operand depth) .unary depth := by
  -- signs and parentheses take one from the depth, so their insides are read with less
  induction depth with
  | zero =>
    intro tokens e rest read
    obtain ⟨token, rfl, leaf⟩ | ⟨inner, more, absurd, -⟩ := operand_cases read
    · exact ⟨[token], 0, rfl, Nat.le_refl 0, .unsigned (.leaf leaf)⟩
    · cases absurd
  | succ depth ih =>
    intro tokens e rest read
    obtain ⟨token, rfl, leaf⟩ | ⟨inner, more, same, h⟩ := operand_cases read
    · exact ⟨[token], 0, rfl, Nat.zero_le _, .unsigned (.leaf leaf)⟩
    cases same
    obtain ⟨rfl, read⟩ | ⟨rfl, read⟩ | ⟨rfl, read⟩ := h
    · obtain ⟨phrase, n, inner, rfl, le, rfl, derived⟩ := recognises_signed ih read
      exact ⟨.not :: phrase, n + 1, rfl, Nat.succ_le_succ le, .not derived⟩
    · obtain ⟨phrase, n, inner, rfl, le, rfl, derived⟩ := recognises_signed ih read
      exact ⟨.op .sub :: phrase, n + 1, rfl, Nat.succ_le_succ le, .neg derived⟩
    · obtain ⟨phrase, n, rfl, le, derived⟩ := recognises_closed ih read
      exact ⟨.openParen :: phrase ++ [.closeParen], n + 1, by simp, Nat.succ_le_succ le,
        .unsigned (.parentheses derived)⟩

end Grammar

namespace Expr

open Grammar (Derives Symbol)

/-! ## Reading expressions -/

/-- **The tokens of an expression** are a phrase of the grammar. -/
theorem ofTokens_eq_ok_iff {tokens : List Token} {e : Expr} :
    ofTokens tokens = .ok e ↔ 1 ≤ tokens.length ∧ tokens.length ≤ maxTokens ∧
      ∃ n ≤ Parser.maxNesting, Derives .or tokens e n := by
  have nonempty : tokens.isEmpty = false ↔ 1 ≤ tokens.length := by
    cases tokens <;> simp
  constructor
  · intro h
    rw [ofTokens] at h
    split at h
    · cases h
    next some =>
    split at h
    · cases h
    next short =>
    split at h
    · cases h
    · next read =>
      cases h
      obtain ⟨phrase, n, same, le, derived⟩ :=
        Grammar.recognises_binary (Grammar.recognises_operand _) _ _ _ read
      rw [List.append_nil] at same
      exact ⟨nonempty.mp (Bool.eq_false_iff.mpr some), Nat.le_of_not_lt short, n, le,
        same ▸ derived⟩
    · cases h
  · rintro ⟨some, short, n, le, derived⟩
    have read := (derived.reaches le).parser_eq Symbol.stops_nil
    rw [List.append_nil] at read
    rw [ofTokens, nonempty.mpr some, if_neg Bool.false_ne_true, if_neg (Nat.not_lt.mpr short),
      show Parser.binary _ tokens = _ from read]

/-- **A text is an expression** exactly if its tokens, at least one and at most 512, are a phrase
of the grammar in which no token has more than 64 parentheses and signs around it. Then it is
the expression that is the tree of the phrase, and no phrase has two trees. -/
theorem parse_eq_ok_iff {source : Text} {tokens : List Token} (read : tokenize source = .ok tokens)
    (e : Expr) :
    (parse source = .ok e ↔ 1 ≤ tokens.length ∧ tokens.length ≤ 512 ∧
      ∃ nesting ≤ 64, Derives .or tokens e nesting) ∧
    ∀ e' n n', Derives .or tokens e n → Derives .or tokens e' n' → e = e' := by
  refine ⟨?_, fun e' n n' => Derives.unique⟩
  rw [parse, read]
  exact ofTokens_eq_ok_iff

/-- A difference of three in parentheses behind a sign. -/
theorem parse_eq_ok_iff_of_difference :
    let source : Text := "-(a - b - c)"
    let tokens : List Token := [.op .sub, .openParen, .name ['a'], .op .sub, .name ['b'],
      .op .sub, .name ['c'], .closeParen]
    let e : Expr := .unary .neg
      (.binary .sub (.binary .sub (.var ['a']) (.var ['b'])) (.var ['c']))
    tokenize source = .ok tokens ∧ Derives .or tokens e 2 ∧ parse source = .ok e := by
  intro source tokens e
  have read : tokenize source = .ok tokens := by decide +kernel
  have product (path : Text) : Derives .product [.name path] (.var path) 0 :=
    .single rfl (.unsigned (.leaf rfl))
  have or_of_sum {tokens e n} (h : Derives .sum tokens e n) : Derives .or tokens e n :=
    .single rfl (.single rfl (.single rfl (.single rfl h)))
  have minus {before left} (h : Derives .sum before left 0) (path : Text) :
      Derives .sum (before ++ [.op .sub, .name path]) (.binary .sub left (.var path)) 0 :=
    .join rfl (by decide) h (product path)
  have difference := minus (minus (.single rfl (product ['a'])) ['b']) ['c']
  have derived : Derives .or tokens e 2 :=
    or_of_sum (.single rfl (.single rfl
      (.neg (.unsigned (.parentheses (or_of_sum difference))))))
  exact ⟨read, derived,
    (parse_eq_ok_iff read e).1.mpr ⟨by decide, by decide, 2, by decide, derived⟩⟩

end Expr

end Stencil
