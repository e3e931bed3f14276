import Stencil.Expr.Eval
import Stencil.Proofs.Value.Name

/-!
# Names as expressions

A name of letters from `A` to `Z`, digits and underscores is read as one token, and an expression
that is nothing else is this name, unless it is a keyword. A name that holds any other letter or
digit is no expression: no token starts there.

## Main definitions

* `Text.IsAscii text`: all characters lie below 128

## Main results

* `Expr.parse_of_isAscii`: a name is read as itself
* `Expr.exists_parse_eq_error`: a name with a character beyond 128 is not read
* `Assignment.value_of_isAscii`: the value of a name as an expression
-/

namespace Stencil

/-- All characters of the text lie below 128. -/
def Text.IsAscii (text : Text) : Prop := ∀ c ∈ text, c.toNat < 128

instance (text : Text) : Decidable text.IsAscii :=
  decidable_of_iff (text.all fun c => c.toNat < 128) (by simp [Text.IsAscii])

namespace Token

/-! ## Characters of names -/

section Characters

variable {c : Char}

/-- A character beyond 128 is none of those below. -/
theorem ne_of_large (large : ¬ c.toNat < 128) {d : Char} (small : d.toNat < 128) : c ≠ d := by
  rintro rfl
  exact large small

theorem isAlphanum_of_large (large : ¬ c.toNat < 128) : c.isAlphanum = false := by
  rw [Bool.eq_false_iff]
  intro h
  have codes := Text.code_of_isAlphanum h
  omega

theorem inName_of_large (large : ¬ c.toNat < 128) : inName c = false := by
  have other : c ≠ '_' := ne_of_large large (by decide)
  simp [inName, isAlphanum_of_large large, other]

/-- The characters of names in expressions are the name characters below 128. -/
theorem inName_iff : inName c = true ↔ c.toNat < 128 ∧ Path.isNameCharacter c = true := by
  by_cases small : c.toNat < 128
  · simp [inName, Path.isNameCharacter, Text.isAlphanumeric, small]
  · simp [inName_of_large small, small]

theorem startsName_of_large (large : ¬ c.toNat < 128) : startsName c = false := by
  have other : c ≠ '_' := ne_of_large large (by decide)
  have noLetter := isAlphanum_of_large large
  rw [Char.isAlphanum, Bool.or_eq_false_iff] at noLetter
  simp [startsName, noLetter.1, other]

theorem startsName_iff :
    startsName c = true ↔ c.toNat < 128 ∧ (Text.isAlphabetic c || c == '_') = true := by
  by_cases small : c.toNat < 128
  · simp [startsName, Text.isAlphabetic, small]
  · simp [startsName_of_large small, small]

end Characters

/-! ## Reading a name -/

theorem takeName_append {front : Text} (h : ∀ c ∈ front, inName c = true) (rest : Text) :
    takeName (front ++ rest) = front ++ takeName rest := by
  induction front with
  | nil => rfl
  | cons c front ih =>
    obtain ⟨here, later⟩ := List.forall_mem_cons.mp h
    rw [List.cons_append, takeName, here, Bool.true_or, if_pos rfl, ih later, List.cons_append]

/-- The characters that a token takes are no more than there are. -/
theorem length_takeName_le (text : Text) : (takeName text).length ≤ text.length := by
  induction text with
  | nil => exact Nat.le_refl _
  | cons c rest ih =>
    rw [takeName]
    split
    · exact Nat.succ_le_succ ih
    · exact Nat.zero_le _

/-- A name ends in front of a character beyond 128. -/
theorem takeName_of_large {c : Char} (large : ¬ c.toNat < 128) (rest : Text) :
    takeName (c :: rest) = [] := by
  have noDot : c ≠ '.' := ne_of_large large (by decide)
  simp [takeName, inName_of_large large, noDot]

/-- What is looked up in a table stands in it. -/
theorem mem_of_lookup_eq_some {α β : Type} [BEq α] [LawfulBEq α] {table : List (α × β)} {key : α}
    {value : β} (found : table.lookup key = some value) : (key, value) ∈ table := by
  obtain ⟨front, back, rfl, -⟩ := List.lookup_eq_some_iff.mp found
  exact List.mem_append_right front (List.mem_cons_self ..)

/-- The signs lie below 128. -/
theorem ofSign?_of_large {c : Char} (large : ¬ c.toNat < 128) : ofSign? c = none := by
  refine List.lookup_eq_none_iff.mpr fun sign mem => bne_iff_ne.mpr (ne_of_large large ?_)
  revert sign
  decide

theorem ofSigns?_of_large {c : Char} (large : ¬ c.toNat < 128) (d : Char) :
    ofSigns? c d = none := by
  refine List.lookup_eq_none_iff.mpr fun signs mem => bne_iff_ne.mpr ?_
  have small : signs.1.1.toNat < 128 := by
    revert signs
    decide
  exact fun same => ne_of_large large small (congrArg Prod.fst same)

/-- **No token starts** with a character beyond 128. -/
theorem read_of_large {c : Char} (large : ¬ c.toNat < 128) (offset : Nat) (rest : Text) :
    read offset c rest = .error (.unexpectedCharacter [c] offset) := by
  have noLetter := isAlphanum_of_large large
  rw [Char.isAlphanum, Bool.or_eq_false_iff] at noLetter
  have noQuote : Text.isQuote c = false := by
    simp [Text.isQuote, ne_of_large large (d := '"') (by decide),
      ne_of_large large (d := '\'') (by decide)]
  have noSigns : rest.head?.bind (ofSigns? c) = none := by
    cases rest with
    | nil => rfl
    | cons d rest => exact ofSigns?_of_large large d
  simp only [read, startsName_of_large large, noLetter.2, noQuote, noSigns, ofSign?_of_large large]
  rfl

end Token

/-! ## Tokens of a name -/

section Tokens

open Token

variable {front rest : Text}

/-- Characters that belong to a token read before are passed over. -/
theorem tokenizeFrom_length (front rest : Text) (offset : Nat) :
    tokenizeFrom front.length offset (front ++ rest) =
      tokenizeFrom 0 (offset + Text.byteLength front) rest := by
  induction front generalizing offset with
  | nil => rfl
  | cons c front ih =>
    rw [List.length_cons, List.cons_append, tokenizeFrom, ih, Text.byteLength_cons, Nat.add_assoc]

theorem isSpace_of_startsName {c : Char} (h : startsName c = true) : isSpace c = false := by
  rw [Bool.eq_false_iff]
  intro space
  simp only [isSpace, Bool.or_eq_true, beq_iff_eq] at space
  rcases space with (((rfl | rfl) | rfl) | rfl) | rfl <;> exact absurd h (by decide)

/-- **A word is one token**: a first character and the name characters and dots behind it. The tokens
of what follows come behind it. -/
theorem tokenizeFrom_of_takeName {c : Char} (starts : startsName c = true)
    (word : takeName (front ++ rest) = front) (offset : Nat) :
    tokenizeFrom 0 offset (c :: (front ++ rest)) =
      (tokenizeFrom 0 (offset + Text.byteLength (c :: front)) rest).map
        (ofWord (c :: front) :: ·) := by
  rw [tokenizeFrom, isSpace_of_startsName starts]
  simp only [Bool.false_eq_true, if_false, Token.read, starts, if_true, word, List.length_cons,
    Nat.add_sub_cancel, tokenizeFrom_length, Text.byteLength_cons, Nat.add_assoc]
  cases tokenizeFrom 0 _ rest <;> rfl

/-- **A name is one token**, and those of what follows come behind it. -/
theorem tokenizeFrom_name {c : Char} (starts : startsName c = true)
    (front_names : ∀ d ∈ front, inName d = true) (ends : takeName rest = []) (offset : Nat) :
    tokenizeFrom 0 offset (c :: (front ++ rest)) =
      (tokenizeFrom 0 (offset + Text.byteLength (c :: front)) rest).map
        (ofWord (c :: front) :: ·) := by
  refine tokenizeFrom_of_takeName starts ?_ offset
  rw [takeName_append front_names, ends, List.append_nil]

/-- **An identifier is one token** where the name characters end. -/
theorem tokenizeFrom_identifier {word : Text} (isName : Path.isIdentifier word = true)
    (ascii : word.IsAscii) (ends : takeName rest = []) (offset : Nat) :
    tokenizeFrom 0 offset (word ++ rest) =
      (tokenizeFrom 0 (offset + Text.byteLength word) rest).map (ofWord word :: ·) := by
  cases word with
  | nil => cases isName
  | cons c front =>
    obtain ⟨small, ascii⟩ := List.forall_mem_cons.mp ascii
    rw [Path.isIdentifier, Bool.and_eq_true, List.all_eq_true] at isName
    have names : ∀ d ∈ front, inName d = true := fun d mem =>
      inName_iff.mpr ⟨ascii d mem, isName.2 d mem⟩
    exact tokenizeFrom_name (startsName_iff.mpr ⟨small, isName.1⟩) names ends offset

theorem tokenizeFrom_of_large {c : Char} (large : ¬ c.toNat < 128) (offset : Nat) (rest : Text) :
    tokenizeFrom 0 offset (c :: rest) = .error (.unexpectedCharacter [c] offset) := by
  have noSpace : isSpace c = false := by
    rw [Bool.eq_false_iff]
    intro space
    simp only [isSpace, Bool.or_eq_true, beq_iff_eq] at space
    rcases space with (((rfl | rfl) | rfl) | rfl) | rfl <;> exact large (by decide)
  rw [tokenizeFrom, noSpace, read_of_large large]
  rfl

end Tokens

/-! ## Names as expressions -/

namespace Expr

variable {word : Text} (isName : Path.isIdentifier word = true)
include isName

/-- **A name is read as itself**, unless it is a keyword. -/
theorem parse_of_isAscii (ascii : word.IsAscii) (noKeyword : Token.ofWord word = .name word) :
    parse word = .ok (.var word) := by
  have ends : Token.takeName [] = [] := rfl
  have tokens := tokenizeFrom_identifier isName ascii ends 0
  rw [List.append_nil, noKeyword] at tokens
  rw [parse, tokenize, tokens]
  rfl

/-- **A name with a character beyond 128 is not read.** -/
theorem exists_parse_eq_error (foreign : ¬ word.IsAscii) : ∃ e, parse word = .error e := by
  -- the first such character ends the token in front of it, if there is one, and starts none
  obtain ⟨c, found⟩ : ∃ c, word.find? (fun c => decide (¬ c.toNat < 128)) = some c := by
    rw [← Option.isSome_iff_exists, List.find?_isSome]
    simpa [Text.IsAscii] using foreign
  obtain ⟨large, front, back, rfl, before⟩ := List.find?_eq_some_iff_append.mp found
  have large : ¬ c.toNat < 128 := of_decide_eq_true large
  have small : ∀ d ∈ front, d.toNat < 128 := fun d mem => by simpa using before d mem
  cases front with
  | nil =>
    rw [List.nil_append, parse, tokenize, tokenizeFrom_of_large large]
    exact ⟨_, rfl⟩
  | cons first front =>
    obtain ⟨small_first, small⟩ := List.forall_mem_cons.mp small
    rw [List.cons_append, Path.isIdentifier, Bool.and_eq_true, List.all_eq_true] at isName
    have names : ∀ d ∈ front, Token.inName d = true := fun d mem =>
      Token.inName_iff.mpr ⟨small d mem, isName.2 d (List.mem_append_left _ mem)⟩
    rw [List.cons_append, parse, tokenize,
      tokenizeFrom_name (Token.startsName_iff.mpr ⟨small_first, isName.1⟩) names
        (Token.takeName_of_large large back), tokenizeFrom_of_large large]
    exact ⟨_, rfl⟩

end Expr

/-! ## Assignments of names -/

namespace Assignment

variable {word : Text} (isName : Path.isIdentifier word = true) (lookup : Lookup)
include isName

theorem value_eq_parse :
    value lookup word = (Expr.parse word).bind fun e => e.eval lookup := by
  rw [value, Text.trim_of_isTrimmed (Path.isWord_of_isIdentifier isName).isTrimmed]
  cases Expr.parse word <;> rfl

/-- **A name as an expression** has the value bound to it; a text that spells a number counts as
this number. -/
theorem value_of_isAscii (ascii : word.IsAscii) (noKeyword : Token.ofWord word = .name word)
    {bound : Value} (found : lookup.get? word = some bound) :
    value lookup word = .ok bound.coerceNumeric := by
  rw [value_eq_parse isName, Expr.parse_of_isAscii isName ascii noKeyword]
  simp only [Except.bind, Expr.eval, Path.resolve?, found]

/-- A name to which nothing is bound has no value. -/
theorem value_of_unknown (ascii : word.IsAscii) (noKeyword : Token.ofWord word = .name word)
    (unknown : lookup.get? word = none) :
    value lookup word = .error (.undefinedVariable word) := by
  rw [value_eq_parse isName, Expr.parse_of_isAscii isName ascii noKeyword]
  simp only [Except.bind, Expr.eval, Path.resolve?, unknown, Path.segments_of_isIdentifier isName]

theorem exists_value_eq_error (foreign : ¬ word.IsAscii) : ∃ e, value lookup word = .error e := by
  obtain ⟨e, failed⟩ := Expr.exists_parse_eq_error isName foreign
  exact ⟨e, by rw [value_eq_parse isName, failed, Except.bind]⟩

end Assignment

end Stencil
