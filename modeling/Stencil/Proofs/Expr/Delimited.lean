import Stencil.Proofs.Expr.Quoted

/-!
# Tokens in front of a delimiter

Every token is the longest one that starts at its place, so what follows a text can change its last
token. A blank and a closing parenthesis change none: no token goes on with them. The tokens of a
text in front of one are therefore those that the text has alone, wherever it starts.

## Main definitions

* `Token.Delimits d`: no token in front of `d` goes on with it

## Main results

* `Token.read_append_cons`: a token is read alike in front of a delimiter
* `tokenizeFrom_append_cons`: the tokens of a text in front of a delimiter
-/

namespace Stencil

namespace Token

/-- No token in front of the character goes on with it. -/
structure Delimits (d : Char) : Prop where
  noName : inName d = false
  noDot : d ≠ '.'
  noSign : (d == '+' || d == '-') = false
  noPair : d ≠ '=' ∧ d ≠ '&' ∧ d ≠ '|'

theorem delimits_space : Delimits ' ' := by constructor <;> decide

theorem delimits_closing : Delimits ')' := by constructor <;> decide

/-- No sign of two characters ends with a delimiter. -/
theorem Delimits.ofSigns?_eq_none {d : Char} (delimits : Delimits d) (c : Char) :
    ofSigns? c d = none := by
  refine List.lookup_eq_none_iff.mpr fun signs mem => bne_iff_ne.mpr ?_
  have second : signs.1.2 = '=' ∨ signs.1.2 = '&' ∨ signs.1.2 = '|' := by
    revert signs
    decide
  intro same
  rw [← congrArg Prod.snd same] at second
  obtain ⟨noEqual, noAnd, noBar⟩ := delimits.noPair
  rcases second with equal | both | bar
  · exact noEqual equal
  · exact noAnd both
  · exact noBar bar

/-! ## Parts of tokens -/

/-- What is taken while a condition holds ends where it does not hold. -/
theorem takeWhile_append_cons {p : Char → Bool} {d : Char} (stops : p d = false)
    (text rest : Text) : (text ++ d :: rest).takeWhile p = text.takeWhile p := by
  rw [List.takeWhile_append, List.takeWhile_cons_of_neg (by simp [stops]), List.append_nil]
  split
  · next all => exact ((List.takeWhile_prefix p).eq_of_length all).symm
  · rfl

section Parts

variable {d : Char} (delimits : Delimits d) (text rest : Text)
include delimits

theorem Delimits.noDigit : d.isDigit = false := by
  have noName := delimits.noName
  rw [inName, Char.isAlphanum, Bool.or_eq_false_iff, Bool.or_eq_false_iff] at noName
  exact noName.1.2

theorem takeName_append_cons : takeName (text ++ d :: rest) = takeName text := by
  induction text with
  | nil => simp [takeName, delimits.noName, delimits.noDot]
  | cons c text ih =>
    rw [List.cons_append, takeName, takeName, ih]
    -- a dot goes on with the name only if a name character follows, which the delimiter is not
    cases text with
    | nil => simp [delimits.noName]
    | cons next text => rfl

theorem takeDigits_append_cons : takeDigits (text ++ d :: rest) = takeDigits text :=
  takeWhile_append_cons delimits.noDigit text rest

theorem takeFraction_append_cons : takeFraction (text ++ d :: rest) = takeFraction text := by
  cases text with
  | nil =>
    rw [List.nil_append]
    unfold takeFraction
    split
    · next same => exact absurd (List.head_eq_of_cons_eq same) delimits.noDot
    · rfl
  | cons c text =>
    rw [List.cons_append]
    by_cases point : c = '.'
    · subst point
      simp only [takeFraction, takeDigits_append_cons delimits]
    · have none (behind : Text) : takeFraction (c :: behind) = [] := by
        unfold takeFraction
        split
        · next same => exact absurd (List.head_eq_of_cons_eq same) point
        · rfl
      rw [none, none]

omit delimits in
theorem length_takeFraction_le : (takeFraction text).length ≤ text.length := by
  unfold takeFraction
  split
  · next digits =>
    split
    · exact Nat.zero_le _
    · exact Nat.succ_le_succ (List.takeWhile_prefix _).length_le
  · exact Nat.zero_le _

omit delimits in
theorem length_takeExponent_le : (takeExponent text).length ≤ text.length := by
  cases text with
  | nil => exact Nat.le_refl 0
  | cons c text =>
    simp only [takeExponent]
    split
    · split
      · have sign : (text.takeWhile fun c => c == '+' || c == '-').length ≤ text.length :=
          (List.takeWhile_prefix _).length_le
        have digits : (takeDigits (text.drop
            (text.takeWhile fun c => c == '+' || c == '-').length)).length ≤ _ :=
          (List.takeWhile_prefix _).length_le
        rw [List.length_drop] at digits
        simp only [List.cons_append, List.length_cons, List.length_append]
        omega
      · exact Nat.zero_le _
    · exact Nat.zero_le _

omit delimits in
theorem length_takeNumber_le : (takeNumber text).length ≤ text.length := by
  have whole : (takeDigits text).length ≤ text.length := (List.takeWhile_prefix _).length_le
  have fraction := length_takeFraction_le (text.drop (takeDigits text).length)
  have exponent := length_takeExponent_le (text.drop ((takeDigits text).length +
    (takeFraction (text.drop (takeDigits text).length)).length))
  rw [List.length_drop] at fraction exponent
  simp only [takeNumber, List.length_append]
  omega

theorem takeExponent_append_cons : takeExponent (text ++ d :: rest) = takeExponent text := by
  cases text with
  | nil =>
    have noLetter : ¬ (d = 'e' ∨ d = 'E') := by
      rintro (rfl | rfl) <;> exact absurd delimits.noName (by decide)
    rw [List.nil_append, takeExponent, if_neg noLetter]
    rfl
  | cons c text =>
    have signs : (text ++ d :: rest).takeWhile (fun c => c == '+' || c == '-') =
        text.takeWhile fun c => c == '+' || c == '-' :=
      takeWhile_append_cons delimits.noSign text rest
    have short : (text.takeWhile fun c => c == '+' || c == '-').length ≤ text.length :=
      (List.takeWhile_prefix _).length_le
    simp only [List.cons_append, takeExponent, signs, List.drop_append_of_le_length short,
      takeDigits_append_cons delimits]

theorem takeNumber_append_cons : takeNumber (text ++ d :: rest) = takeNumber text := by
  have whole : (takeDigits text).length ≤ text.length := (List.takeWhile_prefix _).length_le
  have fraction := length_takeFraction_le (text.drop (takeDigits text).length)
  rw [List.length_drop] at fraction
  have both : (takeDigits text).length +
      (takeFraction (text.drop (takeDigits text).length)).length ≤ text.length := by omega
  simp only [takeNumber, takeDigits_append_cons delimits, List.drop_append_of_le_length whole,
    takeFraction_append_cons delimits, List.drop_append_of_le_length both,
    takeExponent_append_cons delimits]

end Parts

/-- A quoted text that is closed is not read beyond its closing quote. -/
theorem takeQuoted_append_of_ok {quote : Char} (noEscape : quote ≠ '\\') {text content : Text}
    (closed : takeQuoted quote text = .ok content) (more : Text) :
    takeQuoted quote (text ++ more) = .ok content ∧ content.length + 1 ≤ text.length := by
  fun_induction takeQuoted quote text generalizing content with
  | case1 => cases closed
  | case2 => cases closed
  | case3 c rest other inside read ih =>
    -- a protected character
    cases closed
    obtain ⟨same, length⟩ := ih read
    refine ⟨?_, by simpa using length⟩
    rw [List.cons_append, List.cons_append, takeQuoted, if_neg other, same]
  | case4 => cases closed
  | case5 rest =>
    -- the closing quote
    cases closed
    refine ⟨?_, by simp⟩
    rw [List.cons_append, takeQuoted, if_pos rfl]
    intro c behind escape
    exact absurd escape noEscape
  | case6 c rest unprotected other inside read ih =>
    cases closed
    obtain ⟨same, length⟩ := ih read
    refine ⟨?_, by simpa using length⟩
    rw [List.cons_append, takeQuoted, if_neg other, same]
    intro d behind escape _
    cases rest with
    | nil => cases read
    | cons next rest => exact unprotected next rest escape rfl
  | case7 => cases closed

/-! ## Reading a token -/

section Read

variable {d : Char} (delimits : Delimits d) {offset further : Nat} {c : Char} {text : Text}
  {token : Token} (ok : read offset c text = .ok (token, further)) (offset' : Nat) (rest : Text)
include delimits ok

theorem read_word_append_cons (name : startsName c = true) :
    read offset' c (text ++ d :: rest) = .ok (token, further) ∧ further ≤ text.length := by
  rw [read, if_pos name] at ok ⊢
  cases ok
  rw [takeName_append_cons delimits]
  exact ⟨rfl, by simpa using length_takeName_le text⟩

theorem read_number_append_cons (noName : ¬ startsName c = true) (digit : c.isDigit = true) :
    read offset' c (text ++ d :: rest) = .ok (token, further) ∧ further ≤ text.length := by
  rw [read, if_neg noName, if_pos digit] at ok ⊢
  have same := takeNumber_append_cons delimits (c :: text) rest
  have length := length_takeNumber_le (c :: text)
  rw [List.cons_append] at same
  simp only [same] at ok ⊢
  split at ok
  · next value spelled =>
    cases ok
    exact ⟨rfl, by simpa using length⟩
  · cases ok

omit delimits in
/-- A closed quoted text may be followed by anything. -/
theorem read_quoted_append (noName : ¬ startsName c = true) (noDigit : ¬ c.isDigit = true)
    (quoted : Text.isQuote c = true) (more : Text) :
    read offset' c (text ++ more) = .ok (token, further) ∧ further ≤ text.length := by
  rw [read, if_neg noName, if_neg noDigit, if_pos quoted] at ok ⊢
  have noEscape : c ≠ '\\' := by
    rintro rfl
    cases quoted
  split at ok
  · cases ok
  · next content closed =>
    obtain ⟨same, length⟩ := takeQuoted_append_of_ok noEscape closed more
    simp only [same]
    split at ok
    · next meaning means =>
      cases ok
      exact ⟨rfl, length⟩
    · cases ok

/-- A sign of two characters is read first. At the end of the text there is none, and in front of
the delimiter there is none either. -/
theorem read_sign_append_cons (noName : ¬ startsName c = true) (noDigit : ¬ c.isDigit = true)
    (noQuote : ¬ Text.isQuote c = true) :
    read offset' c (text ++ d :: rest) = .ok (token, further) ∧ further ≤ text.length := by
  rw [read, if_neg noName, if_neg noDigit, if_neg noQuote] at ok ⊢
  cases text with
  | nil =>
    simp only [List.nil_append, List.head?_cons, Option.bind_some, delimits.ofSigns?_eq_none,
      List.head?_nil, Option.bind_none] at ok ⊢
    split at ok
    · next sign =>
      cases ok
      exact ⟨rfl, Nat.le_refl 0⟩
    · cases ok
  | cons next text =>
    simp only [List.cons_append, List.head?_cons, Option.bind_some] at ok ⊢
    split at ok
    · next signs =>
      cases ok
      exact ⟨rfl, by simp⟩
    · split at ok
      · next sign =>
        cases ok
        exact ⟨rfl, Nat.zero_le _⟩
      · cases ok

/-- **A token is read alike** in front of a delimiter, wherever it starts, and is not read beyond
it. -/
theorem read_append_cons :
    read offset' c (text ++ d :: rest) = .ok (token, further) ∧ further ≤ text.length := by
  by_cases name : startsName c = true
  · exact read_word_append_cons delimits ok offset' rest name
  by_cases digit : c.isDigit = true
  · exact read_number_append_cons delimits ok offset' rest name digit
  by_cases quoted : Text.isQuote c = true
  · exact read_quoted_append ok offset' name digit quoted (d :: rest)
  · exact read_sign_append_cons delimits ok offset' rest name digit quoted

end Read

end Token

/-- **The tokens of a text in front of a delimiter** are those that it has alone, wherever it
starts. -/
theorem tokenizeFrom_append_cons {d : Char} (delimits : Token.Delimits d) {skip offset : Nat}
    {text : Text} {tokens : List Token} (short : skip ≤ text.length)
    (ok : tokenizeFrom skip offset text = .ok tokens) (offset' : Nat) (rest : Text) :
    tokenizeFrom skip offset' (text ++ d :: rest) =
      (tokenizeFrom 0 (offset' + Text.byteLength text) (d :: rest)).map (tokens ++ ·) := by
  -- on the text, whose characters are skipped where they belong to the token before
  induction text generalizing skip offset offset' tokens with
  | nil =>
    obtain rfl : skip = 0 := Nat.le_zero.mp short
    cases ok
    rw [List.nil_append, Text.byteLength_nil, Nat.add_zero]
    cases tokenizeFrom 0 offset' (d :: rest) <;> rfl
  | cons c text ih =>
    have behind (offset : Nat) : offset + Text.byteLength (c :: text) =
        offset + c.utf8Size + Text.byteLength text := by
      rw [Text.byteLength_cons, Nat.add_assoc]
    rw [List.cons_append, behind]
    cases skip with
    | succ skip => exact ih (Nat.le_of_succ_le_succ short) ok _
    | zero =>
      rw [tokenizeFrom] at ok ⊢
      split at ok
      · next space =>
        rw [if_pos space]
        exact ih (Nat.zero_le _) ok _
      · next noSpace =>
        rw [if_neg noSpace]
        split at ok
        · cases ok
        · next token further first =>
          obtain ⟨same, short⟩ := Token.read_append_cons delimits first offset' rest
          rw [same]
          split at ok
          · next others later =>
            cases ok
            simp only [ih short later]
            cases tokenizeFrom 0 _ (d :: rest) <;> rfl
          · cases ok

end Stencil
