import Stencil.Proofs.Expr.Grammar
import Stencil.Proofs.Expr.Name

/-!
# Names and paths as expressions

An expression that is nothing but a name or a path is read as this name or path. The tokens of
expressions know the letters from `A` to `Z`, digits and underscores only, so a name or a path with
any other letter or digit is none for an expression, and keywords are none either. Every other name
and path is.

## Main definitions

* `Path.HasParts first further path`: what a path looks like between its dots
* `Token.isKeyword word`: the word has a meaning of its own
* `Token.IsPath text`: the whole text is one token of a name or a path

## Main results

* `Path.isIdentifier_or_isDotted_iff`: names and paths by their parts
* `Token.takeName_eq_self_iff`: the characters of a token by its parts
* `Token.isPath_iff`: the tokens of names and paths are those of ASCII letters
* `Expr.parse_eq_var_iff`: what is read as a name or a path
-/

namespace Stencil

/-! ## Names and paths by their parts -/

namespace Path

/-- The first part of the path is as `first` says. The further ones are not empty and consist of
characters of the kind `further`. -/
def HasParts (first : Text → Prop) (further : Char → Bool) (path : Text) : Prop :=
  ∃ start others, segments path = start :: others ∧ first start ∧
    ∀ part ∈ others, part ≠ [] ∧ ∀ c ∈ part, further c = true

variable {first : Text → Prop} {further : Char → Bool} {path start : Text} {others : List Text}

theorem hasParts_iff (parts : segments path = start :: others) :
    HasParts first further path ↔
      first start ∧ ∀ part ∈ others, part ≠ [] ∧ ∀ c ∈ part, further c = true := by
  constructor
  · rintro ⟨start', others', parts', holds⟩
    obtain ⟨rfl, rfl⟩ := List.cons.inj (parts'.symm.trans parts)
    exact holds
  · exact fun holds => ⟨start, others, parts, holds⟩

theorem exists_segments (path : Text) : ∃ start others, segments path = start :: others :=
  List.exists_cons_of_ne_nil (Text.split_ne_nil _ path)

theorem segments_dot (path : Text) : segments ('.' :: path) = [] :: segments path := rfl

theorem segments_cons {c : Char} (noDot : c ≠ '.') (parts : segments path = start :: others) :
    segments (c :: path) = (c :: start) :: others := by
  have stays : (c == '.') = false := beq_eq_false_iff_ne.mpr noDot
  rw [segments] at parts
  simp only [segments, Text.split, stays, Bool.false_eq_true, if_false, parts]

/-- **Names and paths** start with a name, and have name characters in their further parts. -/
theorem isIdentifier_or_isDotted_iff {text : Text} :
    (isIdentifier text = true ∨ isDotted text = true) ↔
      HasParts (isIdentifier · = true) isNameCharacter text := by
  obtain ⟨start, others, parts⟩ := exists_segments text
  rw [hasParts_iff parts]
  cases others with
  | nil =>
    obtain rfl : start = text := Text.eq_of_split_eq_singleton parts
    simp [isDotted, parts]
  | cons next rest =>
    have noName : isIdentifier text ≠ true := by
      intro name
      rw [segments_of_isIdentifier name] at parts
      cases parts
    simp [noName, isDotted, parts]

end Path

/-! ## Keywords -/

namespace Token

/-- The words with a meaning of their own, in small letters. -/
def keywords : List Text := ["true", "false", "null", "and", "or", "not"].map String.toList

/-- Whether a word has a meaning of its own, in any letter case. -/
def isKeyword (word : Text) : Bool := keywords.contains (Text.lower word)

/-- **A word stands for itself** unless it is a keyword. -/
theorem ofWord_eq_name_iff {word path : Text} :
    ofWord word = .name path ↔ path = word ∧ isKeyword word = false := by
  rw [ofWord]
  split
  · next keyword token found =>
    have mem := List.mem_of_find?_eq_some found
    have same : keyword.toList = Text.lower word := by simpa using List.find?_some found
    obtain ⟨listed, other⟩ : keyword.toList ∈ keywords ∧ ∀ path, token ≠ .name path := by
      simp only [List.mem_cons, Prod.mk.injEq, List.not_mem_nil, or_false] at mem
      rcases mem with ⟨rfl, rfl⟩ | ⟨rfl, rfl⟩ | ⟨rfl, rfl⟩ | ⟨rfl, rfl⟩ | ⟨rfl, rfl⟩ |
        ⟨rfl, rfl⟩ <;> exact ⟨by decide, fun path => Token.noConfusion⟩
    have isKeyword : isKeyword word = true := List.contains_iff_mem.mpr (same ▸ listed)
    exact iff_of_false (other path) (by simp [isKeyword])
  · next none =>
    have plain : isKeyword word = false := by
      rw [isKeyword, Bool.eq_false_iff, Ne, List.contains_iff_mem]
      intro mem
      simp only [keywords, List.map_cons, List.map_nil, List.mem_cons, List.not_mem_nil,
        or_false] at mem
      rcases mem with same | same | same | same | same | same <;> rw [same] at none <;> cases none
    simp only [Token.name.injEq, plain, and_true]
    exact eq_comm

/-! ## The characters of a name token -/

/-- A name character stands in front of the text exactly if its first part is not empty. -/
theorem any_head?_iff {text start : Text} {others : List Text}
    (parts : Path.segments text = start :: others) (names : ∀ c ∈ start, inName c = true) :
    text.head?.any inName = true ↔ start ≠ [] := by
  have head : start.head? = text.head?.filter fun c => !(c == '.') := Text.head?_of_split parts
  have noName : inName '.' = false := rfl
  cases text with
  | nil =>
    have empty : start = [] := List.head?_eq_none_iff.mp head
    simp [empty]
  | cons d rest =>
    by_cases dot : d = '.'
    · have empty : start = [] := by simpa [Option.filter_some, dot] using head
      simp [empty, dot, noName]
    · have first : start.head? = some d := by simpa [Option.filter_some, dot] using head
      have nonempty : start ≠ [] := by
        rintro rfl
        cases first
      exact iff_of_true (names d (List.mem_of_head? first)) nonempty

/-- **A token goes on to the end** of a text whose parts consist of name characters, where only the
first part may be empty. -/
theorem takeName_eq_self_iff {text : Text} :
    takeName text = text ↔ Path.HasParts (∀ c ∈ ·, inName c = true) inName text := by
  induction text with
  | nil => exact iff_of_true rfl ⟨[], [], rfl, by simp, by simp⟩
  | cons c rest ih =>
    obtain ⟨start, others, parts⟩ := Path.exists_segments rest
    rw [Path.hasParts_iff parts] at ih
    by_cases dot : c = '.'
    · subst dot
      -- the dot belongs to the token if a name character follows it
      have taken : takeName ('.' :: rest) = '.' :: rest ↔
          rest.head?.any inName = true ∧ takeName rest = rest := by
        have noName : inName '.' = false := rfl
        by_cases goesOn : rest.head?.any inName = true <;> simp [takeName, noName, goesOn]
      rw [Path.hasParts_iff ((Path.segments_dot rest).trans (congrArg _ parts)), taken, ih,
        List.forall_mem_cons]
      constructor
      · rintro ⟨goesOn, names, later⟩
        exact ⟨by simp, ⟨(any_head?_iff parts names).mp goesOn, names⟩, later⟩
      · rintro ⟨-, ⟨nonempty, names⟩, later⟩
        exact ⟨(any_head?_iff parts names).mpr nonempty, names, later⟩
    · rw [Path.hasParts_iff (Path.segments_cons dot parts)]
      by_cases name : inName c = true
      · simp [takeName, name, ih]
      · simp [takeName, name, dot]

/-- The whole text is one token of a name or a path. -/
def IsPath (text : Text) : Prop :=
  ∃ c rest, text = c :: rest ∧ startsName c = true ∧ takeName rest = rest

theorem IsPath.isAscii {text : Text} (h : IsPath text) : text.IsAscii := by
  obtain ⟨c, rest, rfl, starts, taken⟩ := h
  obtain ⟨start, others, parts, names, later⟩ := takeName_eq_self_iff.mp taken
  refine List.forall_mem_cons.mpr ⟨(startsName_iff.mp starts).1, fun d mem => ?_⟩
  by_cases dot : d = '.'
  · rw [dot]
    decide
  · obtain ⟨part, hpart, found⟩ : ∃ part ∈ Path.segments rest, d ∈ part :=
      Text.exists_mem_split mem (by simpa using dot)
    rw [parts] at hpart
    rcases List.mem_cons.mp hpart with rfl | hpart
    · exact (inName_iff.mp (names d found)).1
    · exact (inName_iff.mp ((later part hpart).2 d found)).1

theorem IsPath.hasParts {text : Text} (h : IsPath text) :
    Path.HasParts (Path.isIdentifier · = true) Path.isNameCharacter text := by
  obtain ⟨c, rest, rfl, starts, taken⟩ := h
  obtain ⟨start, others, parts, names, later⟩ := takeName_eq_self_iff.mp taken
  have noDot : c ≠ '.' := by
    rintro rfl
    cases starts
  refine ⟨c :: start, others, Path.segments_cons noDot parts, ?_, fun part mem => ?_⟩
  · change Path.isIdentifier (c :: start) = true
    rw [Path.isIdentifier, (startsName_iff.mp starts).2, Bool.true_and, List.all_eq_true]
    exact fun d mem => (inName_iff.mp (names d mem)).2
  · exact (later part mem).imp_right fun names d mem => (inName_iff.mp (names d mem)).2

theorem isPath_of_hasParts {text : Text} (ascii : text.IsAscii)
    (h : Path.HasParts (Path.isIdentifier · = true) Path.isNameCharacter text) : IsPath text := by
  obtain ⟨start, others, parts, name, later⟩ := h
  have inName_of_mem {part : Text} (hpart : part ∈ start :: others) {d : Char} (mem : d ∈ part)
      (plain : Path.isNameCharacter d = true) : inName d = true :=
    inName_iff.mpr ⟨ascii d (Text.mem_of_mem_split (parts ▸ hpart) mem), plain⟩
  cases start with
  | nil => cases name
  | cons c front =>
    rw [Path.isIdentifier, Bool.and_eq_true, List.all_eq_true] at name
    have head : some c = text.head?.filter fun c => !(c == '.') := Text.head?_of_split parts
    obtain ⟨first, noDot⟩ := Option.filter_eq_some_iff.mp head.symm
    obtain ⟨rest, rfl⟩ := List.head?_eq_some_iff.mp first
    obtain ⟨front', others', parts'⟩ := Path.exists_segments rest
    have whole := Path.segments_cons (by simpa using noDot) parts'
    obtain ⟨same, rfl⟩ := List.cons.inj (whole.symm.trans parts)
    obtain ⟨-, rfl⟩ := List.cons.inj same
    refine ⟨c, rest, rfl, startsName_iff.mpr ⟨ascii c (List.mem_cons_self ..), name.1⟩, ?_⟩
    refine takeName_eq_self_iff.mpr ⟨_, _, parts', fun d mem => ?_, fun part hpart => ?_⟩
    · exact inName_of_mem (List.mem_cons_self ..) (List.mem_cons_of_mem c mem) (name.2 d mem)
    · refine (later part hpart).imp_right fun names d mem => ?_
      exact inName_of_mem (List.mem_cons_of_mem _ hpart) mem (names d mem)

/-- **The tokens of names and paths** are the names and paths whose characters are all ASCII. -/
theorem isPath_iff {text : Text} :
    IsPath text ↔
      text.IsAscii ∧ (Path.isIdentifier text = true ∨ Path.isDotted text = true) := by
  rw [Path.isIdentifier_or_isDotted_iff]
  exact ⟨fun h => ⟨h.isAscii, h.hasParts⟩, fun ⟨ascii, h⟩ => isPath_of_hasParts ascii h⟩

/-! ## Where names come from -/

/-- The signs are no names. -/
theorem ofSign?_ne_name {c : Char} {token : Token} (sign : ofSign? c = some token) (path : Text) :
    token ≠ .name path := by
  have mem := mem_of_lookup_eq_some sign
  rintro rfl
  simp at mem

theorem ofSigns?_ne_name {c d : Char} {token : Token} (signs : ofSigns? c d = some token)
    (path : Text) : token ≠ .name path := by
  have mem := mem_of_lookup_eq_some signs
  rintro rfl
  simp at mem

/-- **Only a word is read as a name.** -/
theorem of_read_eq_name {offset further : Nat} {c : Char} {rest path : Text}
    (read : Token.read offset c rest = .ok (.name path, further)) :
    startsName c = true ∧ ofWord (c :: takeName rest) = .name path := by
  rw [Token.read] at read
  split at read
  · next starts =>
    obtain ⟨word, -⟩ := Prod.mk.inj (Except.ok.inj read)
    exact ⟨starts, word⟩
  split at read
  · -- a number
    dsimp only at read
    split at read <;> cases read
  split at read
  · -- a quoted text
    split at read
    · cases read
    · split at read <;> cases read
  · -- a sign of two characters or of one
    split at read
    · next token found =>
      obtain ⟨same, -⟩ := Prod.mk.inj (Except.ok.inj read)
      obtain ⟨d, -, signs⟩ := Option.bind_eq_some_iff.mp found
      exact absurd same (ofSigns?_ne_name signs path)
    · split at read
      · next token sign =>
        obtain ⟨same, -⟩ := Prod.mk.inj (Except.ok.inj read)
        exact absurd same (ofSign?_ne_name sign path)
      · cases read

end Token

/-- A name among the tokens of a text is a word of the text. -/
theorem exists_word_of_mem {skip offset : Nat} {text path : Text} {tokens : List Token}
    (read : tokenizeFrom skip offset text = .ok tokens) (mem : Token.name path ∈ tokens) :
    ∃ front c rest, text = front ++ c :: rest ∧ Token.startsName c = true ∧
      Token.ofWord (c :: Token.takeName rest) = .name path := by
  fun_induction tokenizeFrom skip offset text generalizing tokens with
  | case1 skip offset =>
    cases read
    cases mem
  | case2 skip offset c rest ih =>
    obtain ⟨front, d, behind, rfl, word⟩ := ih read mem
    exact ⟨c :: front, d, behind, rfl, word⟩
  | case3 offset c rest space ih =>
    obtain ⟨front, d, behind, rfl, word⟩ := ih read mem
    exact ⟨c :: front, d, behind, rfl, word⟩
  | case4 offset c rest space e failed => cases read
  | case5 offset c rest space token further here later found ih =>
    obtain rfl := Except.ok.inj read
    rcases List.mem_cons.mp mem with rfl | mem
    · exact ⟨[], c, rest, rfl, Token.of_read_eq_name here⟩
    · obtain ⟨front, d, behind, rfl, word⟩ := ih found mem
      exact ⟨c :: front, d, behind, rfl, word⟩
  | case6 => cases read

/-- The tree of a phrase is a name only if the phrase holds this name. -/
theorem Grammar.Derives.name_mem {symbol : Grammar.Symbol} {tokens : List Token} {path : Text}
    {n : Nat} (h : Grammar.Derives symbol tokens (.var path) n) : Token.name path ∈ tokens := by
  generalize tree : Expr.var path = e at h
  induction h with
  | single _ _ ih => exact ih tree
  | join | not | neg => cases tree
  | unsigned _ ih => exact ih tree
  | @leaf token e h =>
    subst tree
    cases token <;> cases h
    exact List.mem_singleton_self _
  | parentheses _ ih => exact List.mem_cons_of_mem _ (List.mem_append_left _ (ih tree))

/-! ## Names and paths as expressions -/

namespace Expr

/-- **Names and paths as expressions.** A text is read as the name or the path that it is exactly if
it is no keyword and all its characters are ASCII. No other text is read as itself. -/
theorem parse_eq_var_iff {text : Text} :
    parse text = .ok (.var text) ↔ Token.isKeyword text = false ∧ text.IsAscii ∧
      (Path.isIdentifier text = true ∨ Path.isDotted text = true) := by
  rw [← Token.isPath_iff]
  constructor
  · intro read
    rw [parse] at read
    split at read
    · cases read
    next tokens found =>
    obtain ⟨-, -, n, -, derived⟩ := ofTokens_eq_ok_iff.mp read
    obtain ⟨front, c, rest, parts, starts, word⟩ := exists_word_of_mem found derived.name_mem
    obtain ⟨same, plain⟩ := Token.ofWord_eq_name_iff.mp word
    have lengths := congrArg List.length (parts.symm.trans same)
    have short := Token.length_takeName_le rest
    simp only [List.length_append, List.length_cons] at lengths
    obtain rfl : front = [] := List.length_eq_zero_iff.mp (by omega)
    rw [List.nil_append] at parts
    refine ⟨same ▸ plain, c, rest, parts, starts, ?_⟩
    exact (List.cons.inj (same.symm.trans parts)).2
  · rintro ⟨plain, c, rest, rfl, starts, taken⟩
    have word : Token.ofWord (c :: rest) = .name (c :: rest) :=
      Token.ofWord_eq_name_iff.mpr ⟨rfl, plain⟩
    have tokens : tokenizeFrom 0 0 (c :: (rest ++ [])) = _ :=
      tokenizeFrom_of_takeName starts (by rwa [List.append_nil]) 0
    rw [List.append_nil, word] at tokens
    rw [parse, tokenize, tokens]
    rfl

/-- **A name need not be a name in an expression**: a letter beyond ASCII starts no token. -/
theorem name_beyond_ascii_is_not_read :
    Path.isIdentifier "é".toList = true ∧ Token.isKeyword "é".toList = false ∧
      parse "é".toList = .error (.unexpectedCharacter "é".toList 0) ∧
      Path.isDotted "a.é".toList = true ∧ Token.isKeyword "a.é".toList = false ∧
      parse "a.é".toList = .error (.unexpectedCharacter ".".toList 1) :=
  ⟨by decide +kernel, rfl, rfl, by decide +kernel, rfl, rfl⟩

end Expr

end Stencil
