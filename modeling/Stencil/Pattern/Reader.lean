import Stencil.Text.Quoted
import Stencil.Pattern.Basic
import Stencil.Pattern.Property

/-!
# Reading patterns

The written form of patterns: literals, escapes, classes in brackets with set operations,
groups with names and flags, alternatives and repetitions. Look-around and back-references
are refused.

## Main definitions

* `Pattern.Flags`: how what follows is read
* `Pattern.Reading`: the state of a reader: the rest of the text, and the groups so far
* `Pattern.Source`: a pattern with the number and the names of its groups
* `Pattern.read?`: reads a whole pattern
-/

namespace Stencil.Pattern

/-- How what follows is read. -/
structure Flags where
  /-- Letter case is ignored. -/
  anyCase : Bool := false
  /-- The anchors match at every line. -/
  multiLine : Bool := false
  /-- The dot matches line feeds too. -/
  dotAll : Bool := false
  /-- Repetitions prefer fewer rounds, and those marked with a question mark more. -/
  swapGreed : Bool := false
  /-- Classes are those of Unicode. -/
  unicode : Bool := true
  /-- Carriage returns end lines too. -/
  crlf : Bool := false
  /-- Blanks and comments are passed over. -/
  verbose : Bool := false

/-- The state of a reader. -/
structure Reading where
  /-- What is still to be read. -/
  rest : Text
  /-- How many groups have been opened. -/
  groups : Nat
  /-- The names of groups with their indexes. -/
  names : List (Text × Nat)

/-- A step of reading, which may fail. -/
abbrev Read := StateT Reading Option

namespace Read

/-- What is still to be read. -/
def rest : Read Text := do return (← get).rest

/-- The next character, if there is one. -/
def peek : Read (Option Char) := do return (← get).rest.head?

/-- Passes over some characters. -/
def bump (n : Nat) : Read Unit := modify fun state => { state with rest := state.rest.drop n }

/-- Takes the next character. -/
def next : Read Char := do
  match (← get).rest with
  | c :: rest =>
    modify fun state => { state with rest := rest }
    return c
  | [] => failure

/-- Takes a given text if it comes next. -/
def eat (text : Text) : Read Bool := do
  match text.isPrefixOf? (← get).rest with
  | some rest =>
    modify fun state => { state with rest := rest }
    return true
  | none => return false

/-- Passes over blanks and comments at the start of a text. -/
def dropSpace : (inComment : Bool) → Text → Text
  | _, [] => []
  | true, c :: rest => dropSpace (c != '\n') rest
  | false, c :: rest =>
    if Text.isBlank c then dropSpace false rest
    else if c = '#' then dropSpace true rest
    else c :: rest

/-- Passes over blanks and comments where flags say so. -/
def space (flags : Flags) : Read Unit :=
  if flags.verbose then modify fun state => { state with rest := dropSpace false state.rest }
  else pure ()

/-- Fails unless a condition is met. -/
def require (condition : Bool) : Read Unit := if condition then pure () else failure

end Read

open Read

/-! ### Classes -/

/-- The letters of words. -/
def wordSet (unicode : Bool) : CharSet :=
  if unicode then .word else .ofRanges [('0', '9'), ('A', 'Z'), ('_', '_'), ('a', 'z')]

/-- The set without regard to letter case, where flags say so. -/
def foldSet (flags : Flags) (set : CharSet) : CharSet :=
  if flags.anyCase then .anyCase set else set

/-- The classes of digits, blanks and word characters; a capital letter stands for the
characters outside of a class. -/
def letterClass? (flags : Flags) (c : Char) : Option CharSet :=
  let positive : Option CharSet :=
    match c.toLower with
    | 'd' => some (if flags.unicode then .digit else .ofRanges [('0', '9')])
    | 's' => some (if flags.unicode then .blank else .ofRanges [('\t', '\r'), (' ', ' ')])
    | 'w' => some (wordSet flags.unicode)
    | _ => none
  if c.isLower then positive
  else if flags.unicode then positive.map .complement
  else none

/-- The named classes of characters below 128. -/
def namedClass? (name : Text) : Option CharSet :=
  ([("alnum", [('0', '9'), ('A', 'Z'), ('a', 'z')]), ("alpha", [('A', 'Z'), ('a', 'z')]),
    ("ascii", [('\x00', '\x7f')]), ("blank", [('\t', '\t'), (' ', ' ')]),
    ("cntrl", [('\x00', '\x1f'), ('\x7f', '\x7f')]), ("digit", [('0', '9')]),
    ("graph", [('!', '~')]), ("lower", [('a', 'z')]), ("print", [(' ', '~')]),
    ("punct", [('!', '/'), (':', '@'), ('[', '\x60'), ('\x7b', '~')]),
    ("space", [('\t', '\r'), (' ', ' ')]), ("upper", [('A', 'Z')]),
    ("word", [('0', '9'), ('A', 'Z'), ('_', '_'), ('a', 'z')]),
    ("xdigit", [('0', '9'), ('A', 'F'), ('a', 'f')])].find?
    fun (key, _) => key.toList == name).map fun (_, ranges) => .ofRanges ranges

/-! ### Escapes -/

/-- What one primitive part of a pattern is. -/
inductive Primitive where
  /-- A character that stands for itself. -/
  | literal (c : Char)
  /-- A class of characters. -/
  | set (set : CharSet)
  /-- An assertion. -/
  | check (assertion : Assertion)

/-- The character with a code of some hexadecimal digits. -/
def readDigits (flags : Flags) : (count : Nat) → (value : Nat) → Read Char
  | 0, value =>
    match Text.charOfCode? value with
    | some c => pure c
    | none => failure
  | count + 1, value => do
    space flags
    match Text.hexDigit? (← next) with
    | some digit => readDigits flags count (value * 16 + digit)
    | none => failure

/-- The character with a code in hexadecimal digits, in braces or of a fixed length. -/
def readHex (flags : Flags) (count : Nat) : Read Char := do
  space flags
  if ← eat ['\x7b'] then
    let text ← rest
    let digits := text.takeWhile (· != '\x7d')
    bump digits.length
    require (← eat ['\x7d'])
    let digits := if flags.verbose then digits.filter (!Text.isBlank ·) else digits
    match (Text.hexValue? digits).bind Text.charOfCode? with
    | some c => return c
    | none => failure
  else readDigits flags count 0

/-- The assertion about words that a name in braces behind `\b` stands for. -/
def wordAssertion? (name : Text) (letters : CharSet) : Option Assertion :=
  ([("start", .wordStart letters), ("end", .wordEnd letters),
    ("start-half", .wordStartHalf letters), ("end-half", .wordEndHalf letters)].find?
    fun (key, _) => key.toList == name).map Prod.snd

/-- The set of a Unicode property, named by a letter or by a text in braces. -/
def readProperty (flags : Flags) (negated : Bool) : Read CharSet := do
  require flags.unicode
  space flags
  let c ← next
  let name ←
    if c = '\x7b' then do
      let name := (← rest).takeWhile (· != '\x7d')
      bump name.length
      require (← eat ['\x7d'])
      pure (if flags.verbose then name.filter (!Text.isBlank ·) else name)
    else pure [c]
  match Property.ofText? name with
  | some set =>
    let set := foldSet flags set
    return if negated then .complement set else set
  | none => failure

/-- What stands behind a backslash. -/
def readEscape (flags : Flags) : Read Primitive := do
  let c ← next
  if c = 'x' then return .literal (← readHex flags 2)
  if c = 'u' then return .literal (← readHex flags 4)
  if c = 'U' then return .literal (← readHex flags 8)
  if c = 'p' ∨ c = 'P' then return .set (← readProperty flags (c == 'P'))
  if "dDsSwW".toList.contains c then
    match letterClass? flags c with
    | some set => return .set set
    | none => failure
  match [('a', '\x07'), ('f', '\x0c'), ('t', '\t'), ('n', '\n'), ('r', '\r'), ('v', '\x0b')].lookup c with
  | some meaning => return .literal meaning
  | none => pure ()
  let letters := wordSet flags.unicode
  if c = 'A' then return .check .textStart
  if c = 'z' then return .check .textEnd
  if c = 'B' then return .check (.noWordEdge letters)
  if c = '<' then return .check (.wordStart letters)
  if c = '>' then return .check (.wordEnd letters)
  if c = 'b' then
    match ← rest with
    | '\x7b' :: behind =>
      let isNameCharacter (d : Char) : Bool := d.isAlpha || d == '-'
      -- a brace behind it is a part of the escape only if a name follows
      if (behind.head?.any isNameCharacter) then
        let name := behind.takeWhile isNameCharacter
        bump (name.length + 1)
        require (← eat ['\x7d'])
        match wordAssertion? name letters with
        | some assertion => return .check assertion
        | none => failure
      else return .check (.wordEdge letters)
    | _ => return .check (.wordEdge letters)
  if c.toNat < 128 && !c.isAlphanum then return .literal c
  failure

/-! ### Classes in brackets -/

/-- The operations between the parts of a class. -/
inductive SetOperation where
  | inter
  | diff
  | symmDiff

/-- What an operation makes of two sets. -/
def SetOperation.apply : SetOperation → CharSet → CharSet → CharSet
  | .inter => .inter
  | .diff => .diff
  | .symmDiff => .symmDiff

/-- One character or class inside brackets. -/
def readSetItem (flags : Flags) : Read Primitive := do
  let c ← next
  if c = '\\' then readEscape flags else return .literal c

/-- A primitive as a set; assertions are none. -/
def Primitive.toSet (flags : Flags) : Primitive → Read CharSet
  | .literal c => return foldSet flags (.single c)
  | .set members => return members
  | .check _ => failure

/-- One character, class or range inside brackets. -/
def readSetRange (flags : Flags) : Read CharSet := do
  let first ← readSetItem flags
  space flags
  let text ← rest
  require (text != [])
  let behind := if flags.verbose then dropSpace false text.tail else text.tail
  if text.head? != some '-' || behind.head? == some ']' || behind.head? == some '-' then
    first.toSet flags
  else
    bump 1
    space flags
    let last ← readSetItem flags
    match first, last with
    | .literal a, .literal b =>
      require (a.toNat ≤ b.toNat)
      return foldSet flags (.range a.toNat b.toNat)
    | _, _ => failure

/-- A named class such as `[:alpha:]`, if one comes next. -/
def readNamedClass : Read (Option CharSet) := do
  match ← rest with
  | '[' :: ':' :: behind =>
    let negated := behind.head? == some '^'
    let behind := if negated then behind.tail else behind
    let name := behind.takeWhile (· != ':')
    match behind.drop name.length, namedClass? name with
    | ':' :: ']' :: _, some set =>
      bump (2 + (if negated then 1 else 0) + name.length + 2)
      return some (if negated then .complement set else set)
    | _, _ => return none
  | _ => return none

/-- The characters directly behind an opening bracket that stand for themselves: hyphens,
and a closing bracket if nothing stands before it. -/
def readLeading (flags : Flags) : (fuel : Nat) → CharSet → (isFirst : Bool) → Read (CharSet × Bool)
  | 0, set, isFirst => pure (set, isFirst)
  | fuel + 1, set, isFirst => do
    match ← peek with
    | some '-' =>
      bump 1
      space flags
      readLeading flags fuel (.union set (.single '-')) false
    | some ']' =>
      if isFirst then
        bump 1
        space flags
        return (.union set (.single ']'), false)
      else return (set, isFirst)
    | _ => return (set, isFirst)

/-- The content of brackets behind the opening one, through the closing one. `left` holds
what stands before a set operation. `fuel` is beyond the length of the text. -/
def readSet (flags : Flags) : (fuel : Nat) → (left : Option (CharSet × SetOperation)) →
    (current : CharSet) → Read CharSet
  | 0, _, _ => failure
  | fuel + 1, left, current => do
    let joined : CharSet :=
      match left with
      | some (set, operation) => operation.apply set current
      | none => current
    let operate (operation : SetOperation) : Read CharSet := do
      bump 2
      readSet flags fuel (some (joined, operation)) .empty
    space flags
    match ← rest with
    | [] => failure
    | ']' :: _ =>
      bump 1
      return joined
    | '&' :: '&' :: _ => operate .inter
    | '-' :: '-' :: _ => operate .diff
    | '~' :: '~' :: _ => operate .symmDiff
    | '[' :: _ =>
      match ← readNamedClass with
      | some set => readSet flags fuel left (.union current (foldSet flags set))
      | none =>
        bump 1
        space flags
        let negated ← eat ['^']
        space flags
        let (leading, _) ← readLeading flags fuel .empty true
        let inner ← readSet flags fuel none leading
        let inner := if negated then .complement inner else inner
        -- without Unicode it would hold bytes that are no characters
        require (flags.unicode || !negated)
        readSet flags fuel left (.union current inner)
    | _ =>
      let set ← readSetRange flags
      readSet flags fuel left (.union current set)

/-- A class in brackets. -/
def readBrackets (flags : Flags) : Read CharSet := do
  let fuel := (← rest).length + 1
  bump 1
  space flags
  let negated ← eat ['^']
  space flags
  let (leading, _) ← readLeading flags fuel .empty true
  let set ← readSet flags fuel none leading
  require (flags.unicode || !negated)
  return if negated then .complement set else set

/-! ### Repetitions -/

/-- A number inside braces, with blanks around it. -/
def readCount : Read (Option Nat) := do
  let text := (← rest).dropWhile Text.isBlank
  let digits := text.takeWhile Char.isDigit
  let behind := (text.drop digits.length).dropWhile Text.isBlank
  modify fun state => { state with rest := behind }
  if digits = [] then return none
  let value := Text.digitsValue digits
  require (Width.unsigned 32 value)
  return some value

/-- A repetition sign behind an item: the least and the greatest number of rounds, and
whether more are preferred. -/
def readRepetition (flags : Flags) : Read (Option (Nat × Option Nat × Bool)) := do
  let finish (least : Nat) (most : Option Nat) : Read (Option (Nat × Option Nat × Bool)) := do
    let lazy ← eat ['?']
    return some (least, most, lazy == flags.swapGreed)
  match ← peek with
  | some '?' => bump 1; finish 0 (some 1)
  | some '*' => bump 1; finish 0 none
  | some '+' => bump 1; finish 1 none
  | some '\x7b' =>
    bump 1
    space flags
    match ← readCount with
    | none => failure
    | some least =>
      let most : Option Nat ←
        if ← eat [','] then
          space flags
          if (← peek) == some '\x7d' then pure none
          else
            match ← readCount with
            | some most => pure (some most)
            | none => failure
        else pure (some least)
      require (← eat ['\x7d'])
      require (most.all (least ≤ ·))
      space flags
      finish least most
  | _ => return none

/-! ### Groups -/

/-- Letters that switch flags, and a minus sign in front of those to be switched off, up to
a colon or a closing parenthesis. -/
def readFlags : (letters : Text) → (seen : Text) → (value : Bool) → Flags → Option Flags
  | [], seen, value, flags => if !value && seen.head? == some '-' then none else some flags
  | letter :: rest, seen, value, flags =>
    if seen.contains letter then none
    else
      let goOn (flags : Flags) := readFlags rest (letter :: seen) value flags
      match letter with
      | '-' => readFlags rest (letter :: seen) false flags
      | 'i' => goOn { flags with anyCase := value }
      | 'm' => goOn { flags with multiLine := value }
      | 's' => goOn { flags with dotAll := value }
      | 'U' => goOn { flags with swapGreed := value }
      | 'u' => goOn { flags with unicode := value }
      | 'R' => goOn { flags with crlf := value }
      | 'x' => goOn { flags with verbose := value }
      | _ => none

/-- How a group starts. -/
inductive GroupStart where
  /-- A group that is remembered under an index. -/
  | captured (index : Nat)
  /-- A group with flags of its own. -/
  | plain (flags : Flags)
  /-- No group, but flags for what follows. -/
  | flags (flags : Flags)

/-- Opens a group that is remembered. -/
def openGroup : Read Nat := do
  let index := (← get).groups + 1
  modify fun state => { state with groups := index }
  return index

/-- The name of a group up to the closing angle bracket. -/
def readName : Read Text := do
  let name := (← rest).takeWhile (· != '>')
  bump name.length
  require (← eat ['>'])
  let isFirst (c : Char) : Bool := c == '_' || Text.isAlphabetic c
  let isFurther (c : Char) : Bool :=
    c == '_' || c == '.' || c == '[' || c == ']' || Text.isAlphanumeric c
  require (name.head?.any isFirst && name.tail.all isFurther)
  return name

/-- What stands behind an opening parenthesis. -/
def readGroupStart (flags : Flags) : Read GroupStart := do
  space flags
  -- no pattern looks ahead or behind
  for refused in ["?=", "?!", "?<=", "?<!"] do
    if ← eat refused then failure
  if (← eat "?P<") || (← eat "?<") then
    let index ← openGroup
    let name ← readName
    require ((← get).names.all fun (other, _) => other != name)
    modify fun state => { state with names := (name, index) :: state.names }
    return .captured index
  if ← eat "?" then
    let letters := (← rest).takeWhile fun c => c != ':' && c != ')'
    bump letters.length
    let close ← next
    match readFlags letters [] true flags with
    | none => failure
    | some newFlags =>
      if close = ')' then
        require (letters != [])
        return .flags newFlags
      return .plain newFlags
  return .captured (← openGroup)

/-! ### Sequences and alternatives -/

/-- A part of a sequence that is neither a group nor a repetition sign. -/
def readPrimitive (flags : Flags) : Read Pattern := do
  match ← next with
  | '\\' =>
    match ← readEscape flags with
    | .literal c => return .one (foldSet flags (.single c))
    | .set set => return .one set
    | .check assertion => return .check assertion
  | '.' =>
    require flags.unicode
    if flags.dotAll then return .one (.complement .empty)
    if flags.crlf then return .one (.complement (.union (.single '\n') (.single '\r')))
    return .one (.complement (.single '\n'))
  | '^' => return .check (if flags.multiLine then .lineStart flags.crlf else .textStart)
  | '$' => return .check (if flags.multiLine then .lineEnd flags.crlf else .textEnd)
  | c => return .one (foldSet flags (.single c))

/-- The alternatives of a group up to its end: `earlier` holds the alternatives before, and
`items` the parts of the current one, last first. A part that only sets flags is none.
`fuel` is beyond the length of the text. -/
def readGroup : (fuel : Nat) → Flags → (earlier : Option Pattern) → (items : List (Option Pattern)) →
    Read Pattern
  | 0, _, _, _ => failure
  | fuel + 1, flags, earlier, items => do
    let sequence := Pattern.ofList (items.reverse.filterMap id)
    let alternatives : Pattern :=
      match earlier with
      | some pattern => .either pattern sequence
      | none => sequence
    space flags
    match ← peek with
    | none => return alternatives
    | some ')' => return alternatives
    | some '|' =>
      bump 1
      readGroup fuel flags (some alternatives) []
    | some '(' =>
      bump 1
      match ← readGroupStart flags with
      -- the flags hold up to the end of the group around them
      | .flags newFlags => readGroup fuel newFlags earlier (none :: items)
      | .plain innerFlags =>
        let inner ← readGroup fuel innerFlags none []
        require (← eat [')'])
        readGroup fuel flags earlier (some inner :: items)
      | .captured index =>
        let inner ← readGroup fuel flags none []
        require (← eat [')'])
        readGroup fuel flags earlier (some (.capture index inner) :: items)
    | some '[' =>
      let set ← readBrackets flags
      readGroup fuel flags earlier (some (.one set) :: items)
    | some _ =>
      match ← readRepetition flags with
      | some (least, most, greedy) =>
        match items with
        | some item :: others =>
          readGroup fuel flags earlier (some (.repeated least most greedy item) :: others)
        -- there is nothing in front to be repeated, or only flags
        | _ => failure
      | none =>
        let item ← readPrimitive flags
        readGroup fuel flags earlier (some item :: items)

/-- A pattern with the number of its groups, the whole match included, and their names. -/
structure Source where
  /-- The pattern. -/
  pattern : Pattern
  /-- The number of groups. -/
  groups : Nat
  /-- The names of groups with their indexes. -/
  names : List (Text × Nat)

/-- The most instructions a pattern may take. -/
def maxSize : Nat := 400000

/-- Reads a whole pattern; none if it is not well formed or too large. -/
def read? (flags : Flags) (text : Text) : Option Source := do
  let (pattern, state) ← (readGroup (2 * text.length + 2) flags none []).run ⟨text, 0, []⟩
  if state.rest = [] ∧ pattern.size ≤ maxSize then
    return ⟨pattern, state.groups + 1, state.names⟩
  else none

end Stencil.Pattern
