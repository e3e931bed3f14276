import Stencil.Text.Quoted
import Stencil.Number.Decimal
import Stencil.Data.Kdl.Basic

/-!
# Reading KDL

Reads KDL documents of version 2. A reader takes its part from the start of a text and
leaves the rest.

## Main definitions

* `Kdl.string?`: names and texts, bare or in quotes
* `Kdl.scalar?`: numbers, keywords and texts
* `Kdl.nodes?`: nodes with their entries and children
* `Kdl.parse?`: whole documents
-/

namespace Stencil.Kdl

/-! ### Blanks and comments -/

/-- The characters that end a line. -/
def isLineEnd (c : Char) : Bool :=
  c == '\n' || c == '\r' || c == '\x0b' || c == '\x0c' || c == '\u0085' || c == '\u2028' ||
    c == '\u2029'

/-- The blanks inside a line. -/
def isSpace (c : Char) : Bool :=
  let n := c.toNat
  n == 0x9 || n == 0x20 || n == 0xA0 || n == 0x1680 || (0x2000 ≤ n && n ≤ 0x200A) ||
    n == 0x202F || n == 0x205F || n == 0x3000

/-- Whether a character may stand nowhere in a document. -/
def isForbidden (c : Char) : Bool :=
  let n := c.toNat
  n ≤ 0x8 || (0xE ≤ n && n ≤ 0x1F) || n == 0x7F || n == 0x200E || n == 0x200F ||
    (0x202A ≤ n && n ≤ 0x202E) || (0x2066 ≤ n && n ≤ 0x2069) || n == 0xFEFF

/-- Takes the end of a line. -/
def lineEnd? : Text → Option Text
  | '\r' :: '\n' :: rest => some rest
  | c :: rest => if isLineEnd c then some rest else none
  | [] => none

/-- Takes a comment of any number of lines behind its opening, with a count of comments
around it. -/
def blockComment? : (around : Nat) → Text → Option Text
  | around, '*' :: '/' :: rest =>
    match around with
    | 0 => some rest
    | around + 1 => blockComment? around rest
  | around, '/' :: '*' :: rest => blockComment? (around + 1) rest
  | around, _ :: rest => blockComment? around rest
  | _, [] => none

/-- Takes blanks inside a line, and comments in between. Each round takes a character, so the
length of the text is `fuel` enough. -/
def skipBlanks : (fuel : Nat) → Text → Text
  | 0, text => text
  | fuel + 1, text =>
    match text with
    | '/' :: '*' :: rest =>
      match blockComment? 0 rest with
      | some rest => skipBlanks fuel rest
      | none => text
    | c :: rest => if isSpace c then skipBlanks fuel rest else text
    | [] => []

/-- A text behind the comment that runs to the end of its line, if there is one. -/
def skipLineComment (text : Text) : Text :=
  match text with
  | '/' :: '/' :: rest => rest.dropWhile fun c => !isLineEnd c
  | _ => text

/-- Takes blanks inside a node. A backslash continues the line. -/
def skipNodeSpace : (fuel : Nat) → Text → Text
  | 0, text => text
  | fuel + 1, text =>
    match skipBlanks text.length text with
    | '\\' :: rest =>
      match skipLineComment (skipBlanks rest.length rest) with
      | [] => []
      | after =>
        match lineEnd? after with
        | some rest => skipNodeSpace fuel rest
        | none => '\\' :: rest
    | text => text

/-- A text without blanks inside a node at its start. -/
def skipSpace (text : Text) : Text :=
  skipNodeSpace (text.length + 1) text

/-- Takes blanks, comments and line ends between nodes. -/
def skipLinesWithin : (fuel : Nat) → Text → Text
  | 0, text => text
  | fuel + 1, text =>
    let text := skipLineComment (skipSpace text)
    match lineEnd? text with
    | some rest => skipLinesWithin fuel rest
    | none => text

/-- A text without blanks, comments and line ends at its start. -/
def skipLines (text : Text) : Text :=
  skipLinesWithin (text.length + 1) text

/-! ### Texts -/

/-- Whether a character may stand in a text without quotes. -/
def isBareCharacter (c : Char) : Bool :=
  !isSpace c && !isLineEnd c && !isForbidden c && !"\\/()\x7b\x7d;[]\"#=".toList.contains c

/-- What a character stands for after a backslash. -/
def escapedChar? (c : Char) : Option Char :=
  [('n', '\n'), ('r', '\r'), ('t', '\t'), ('\\', '\\'), ('"', '"'), ('b', '\x08'), ('f', '\x0c'),
    ('s', ' ')].lookup c

/-- The text with its escapes replaced. -/
def unescape? : (fuel : Nat) → Text → Option Text
  | 0, _ => none
  | _, [] => some []
  | fuel + 1, '\\' :: 'u' :: '{' :: rest => do
    let digits := rest.takeWhile (· != '}')
    let char ← (Text.hexValue? digits).bind Text.charOfCode?
    if digits.length ≤ 6 ∧ digits.length < rest.length then
      (unescape? fuel (rest.drop (digits.length + 1))).map (char :: ·)
    else none
  | fuel + 1, '\\' :: c :: rest => do
    let char ← escapedChar? c
    (unescape? fuel rest).map (char :: ·)
  | _, ['\\'] => none
  | fuel + 1, c :: rest => (unescape? fuel rest).map (c :: ·)

/-- The text without its escaped blanks: a backslash with the blanks and line ends behind it. -/
def dropEscapedBlanks : (inside : Bool) → Text → Text
  | true, c :: rest =>
    if isSpace c || isLineEnd c then dropEscapedBlanks true rest
    else if c = '\\' then
      match rest with
      | d :: rest =>
        if isSpace d || isLineEnd d then dropEscapedBlanks true rest
        else '\\' :: d :: dropEscapedBlanks false rest
      | [] => ['\\']
    else c :: dropEscapedBlanks false rest
  | false, '\\' :: c :: rest =>
    if isSpace c || isLineEnd c then dropEscapedBlanks true rest
    else '\\' :: c :: dropEscapedBlanks false rest
  | false, c :: rest => c :: dropEscapedBlanks false rest
  | _, [] => []

/-- Takes a text up to a closing mark, and drops the mark. With `escapes` a character behind
a backslash closes nothing. -/
def takeUntil? (mark : Text) (escapes : Bool) : Text → Option (Text × Text)
  | [] => none
  | c :: rest =>
    match mark.isPrefixOf? (c :: rest) with
    | some after => some ([], after)
    | none =>
      match rest with
      | d :: after =>
        if escapes && c == '\\' then
          (takeUntil? mark escapes after).map fun (content, rest) => (c :: d :: content, rest)
        else (takeUntil? mark escapes (d :: after)).map fun (content, rest) => (c :: content, rest)
      | [] => none
termination_by text => text.length

/-- The lines of a text. -/
def lines : Text → List Text
  | [] => [[]]
  | '\r' :: '\n' :: rest => [] :: lines rest
  | c :: rest =>
    if isLineEnd c then [] :: lines rest
    else
      match lines rest with
      | [] => [[c]]
      | line :: more => (c :: line) :: more

/-- The lines between three opening and three closing quotes, without the blanks that the
last line has in front of the closing quotes. -/
def dedent? (body : Text) : Option Text := do
  let inner ← lineEnd? body
  let margin ← (lines inner).getLast?
  if !margin.all isSpace then none
  else
    let kept ← (lines inner).dropLast.mapM fun line =>
      if line.all isSpace then some [] else margin.isPrefixOf? line
    return Text.join ['\n'] kept

/-- Takes a text in quotes with a number of number signs around it. -/
def quoted? (signs : Text) (text : Text) : Option (Text × Text) := do
  let raw := signs ≠ []
  match text with
  | '"' :: '"' :: '"' :: rest =>
    let (body, rest) ← takeUntil? ("\"\"\"".toList ++ signs) (!raw) rest
    let content ← dedent? (if raw then body else dropEscapedBlanks false body)
    return (← if raw then some content else unescape? (content.length + 1) content, rest)
  | '"' :: rest =>
    let (body, rest) ← takeUntil? ('"' :: signs) (!raw) rest
    let body := if raw then body else dropEscapedBlanks false body
    if body.any isLineEnd then none
    else return (← if raw then some body else unescape? (body.length + 1) body, rest)
  | _ => none

/-- Whether a token starts as numbers do. -/
def startsNumber (token : Text) : Bool :=
  let digits := match token with | '+' :: rest | '-' :: rest => rest | _ => token
  match digits with
  | '.' :: c :: _ => c.isDigit
  | c :: _ => c.isDigit
  | [] => false

/-- Whether a token is a text without quotes. -/
def isBareText (token : Text) : Bool :=
  token != [] && !startsNumber token &&
    ["true", "false", "null", "inf", "-inf", "nan"].all fun word => word.toList != token

/-- Takes a name or a text, bare or in quotes. -/
def string? (text : Text) : Option (Text × Text) :=
  match text with
  | '"' :: _ => quoted? [] text
  | '#' :: _ =>
    let signs := text.takeWhile (· == '#')
    quoted? signs (text.drop signs.length)
  | _ =>
    let token := text.takeWhile isBareCharacter
    if isBareText token then some (token, text.drop token.length) else none

/-! ### Numbers and keywords -/

/-- The digits of a run that starts with a digit; underscores may follow. -/
def digitRun? (isDigit : Char → Bool) (run : Text) : Option Text :=
  match run with
  | c :: _ =>
    if isDigit c && run.all (fun c => isDigit c || c == '_') then some (run.filter (· != '_'))
    else none
  | [] => none

/-- An integer of 128 bits. -/
def integer? (negative : Bool) (n : Nat) : Option Value :=
  let n : Int := if negative then -(n : Int) else n
  if Width.signed 128 n then some (.number (Number.ofInt n)) else none

/-- The value of a run of digits of a base. -/
def based? (negative : Bool) (base : Nat) (run : Text) : Option Value := do
  let digits ← digitRun? (fun c => (Text.hexDigit? c).any (· < base)) run
  integer? negative (digits.foldl (fun n c => n * base + (Text.hexDigit? c).getD 0) 0)

/-- The value of a decimal number without its sign. -/
def decimal? (negative : Bool) (token : Text) : Option Value := do
  let mantissa := token.takeWhile fun c => c != 'e' && c != 'E'
  let exponent : Option Text ←
    match token.drop mantissa.length with
    | [] => some none
    | _ :: '-' :: run => (digitRun? Char.isDigit run).map fun digits => some ('-' :: digits)
    | _ :: '+' :: run => (digitRun? Char.isDigit run).map some
    | _ :: run => (digitRun? Char.isDigit run).map some
  let whole ← digitRun? Char.isDigit (mantissa.takeWhile (· != '.'))
  let fraction : Option Text ←
    match mantissa.dropWhile (· != '.') with
    | [] => some none
    | _ :: run => (digitRun? Char.isDigit run).map some
  if exponent.isNone && fraction.isNone then integer? negative (Text.digitsValue whole)
  else
    let plain := whole ++ '.' :: fraction.getD ['0'] ++ 'e' :: exponent.getD ['0']
    (Number.ofText? plain).map fun n => .number (if negative then n.neg else n)

/-- The value of a number. -/
def number? (token : Text) : Option Value :=
  let (negative, token) :=
    match token with
    | '-' :: rest => (true, rest)
    | '+' :: rest => (false, rest)
    | _ => (false, token)
  match token with
  | '0' :: 'x' :: run => based? negative 16 run
  | '0' :: 'o' :: run => based? negative 8 run
  | '0' :: 'b' :: run => based? negative 2 run
  | _ => decimal? negative token

/-- The value of a keyword behind its number sign. -/
def keyword? (word : Text) : Option Value :=
  [("true".toList, Value.bool true), ("false".toList, .bool false), ("null".toList, .null),
    ("inf".toList, .number (Number.infinity false)),
    ("-inf".toList, .number (Number.infinity true)),
    ("nan".toList, .number (Number.nan false))].lookup word

/-- Takes a scalar. -/
def scalar? (text : Text) : Option (Value × Text) :=
  match text with
  | '#' :: rest =>
    let word := rest.takeWhile isBareCharacter
    if word = [] then (string? text).map fun (content, rest) => (.text content, rest)
    else (keyword? word).map (·, rest.drop word.length)
  | _ =>
    let token := text.takeWhile isBareCharacter
    if startsNumber token then (number? token).map (·, text.drop token.length)
    else (string? text).map fun (content, rest) => (.text content, rest)

/-! ### Nodes -/

/-- Takes the name of a type in parentheses, if there is one. -/
def skipType? (text : Text) : Option Text :=
  match text with
  | '(' :: rest => do
    let (_, rest) ← string? (skipSpace rest)
    match skipSpace rest with
    | ')' :: rest => some (skipSpace rest)
    | _ => none
  | _ => some text

/-- Takes an argument or a property. -/
def entry? (text : Text) : Option ((Option Text × Value) × Text) := do
  let typed := text.head? == some '('
  let (value, rest) ← scalar? (← skipType? text)
  match value, skipSpace rest with
  | .text name, '=' :: rest =>
    if typed then none
    else
      let (value, rest) ← scalar? (← skipType? (skipSpace rest))
      return ((some name, value), rest)
  | _, _ => return ((none, value), rest)

mutual

/-- Takes the nodes of a document, or of the children of a node up to their closing brace.
Every step takes a character, so twice the length of the text is `fuel` enough. -/
def nodes? (fuel : Nat) (inside : Bool) (text : Text) : Option (List KdlNode × Text) :=
  match fuel with
  | 0 => none
  | fuel + 1 =>
    match skipLines text with
    | [] => if inside then none else some ([], [])
    | '}' :: rest => if inside then some ([], rest) else none
    | '/' :: '-' :: rest => do
      let (_, rest) ← node? fuel (skipLines rest)
      nodes? fuel inside rest
    | text => do
      let (node, rest) ← node? fuel text
      (nodes? fuel inside rest).map fun (nodes, rest) => (node :: nodes, rest)

/-- Takes a node with what ends it; a closing brace stays. -/
def node? (fuel : Nat) (text : Text) : Option (KdlNode × Text) :=
  match fuel with
  | 0 => none
  | fuel + 1 => do
    let (name, rest) ← string? (← skipType? text)
    let ((entries, children), rest) ← members? fuel rest
    return (.node name entries children, rest)

/-- Takes the entries and the children of a node, and what ends it. -/
def members? (fuel : Nat) (text : Text) :
    Option ((List (Option Text × Value) × List KdlNode) × Text) :=
  match fuel with
  | 0 => none
  | fuel + 1 =>
    let after := skipSpace text
    match after with
    | [] => some (([], []), [])
    | ';' :: rest => some (([], []), rest)
    | '}' :: _ => some (([], []), after)
    | '/' :: '/' :: _ => some (([], []), after)
    | '{' :: rest => do
      let (children, rest) ← nodes? fuel true rest
      let ((entries, more), rest) ← members? fuel rest
      -- the children come last
      if entries.isEmpty && more.isEmpty then return (([], children), rest) else none
    | '/' :: '-' :: rest =>
      -- what is taken out has to be well formed all the same
      match skipLines rest with
      | '{' :: rest => do
        let (_, rest) ← nodes? fuel true rest
        members? fuel rest
      | rest => do
        let (_, rest) ← entry? rest
        members? fuel rest
    | c :: _ =>
      if isLineEnd c then some (([], []), after)
      else if after.length = text.length then none
      else do
        let (entry, rest) ← entry? after
        let ((entries, children), rest) ← members? fuel rest
        return ((entry :: entries, children), rest)

end

/-- Reads a whole document. A byte order mark at its start does not count. -/
def parse? (text : Text) : Option (List KdlNode) :=
  let text := match text with | '\uFEFF' :: rest => rest | _ => text
  if text.any isForbidden then none
  else (nodes? (2 * text.length + 2) false text).map Prod.fst

end Stencil.Kdl
