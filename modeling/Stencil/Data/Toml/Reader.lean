import Stencil.Text.Quoted
import Stencil.Calendar.Date
import Stencil.Number.Decimal
import Stencil.Data.Toml.Basic

/-!
# Reading TOML

Reads TOML documents of version 1.1. A reader takes its part from the start of a text and
leaves the rest.

## Main definitions

* `Toml.string?`: texts in quotes, on one line or on several
* `Toml.scalar?`: numbers, truth values, dates and times
* `Toml.value?`: values of any kind
* `Toml.parse?`: whole documents
-/

namespace Stencil.Toml

/-! ### Blanks and comments -/

/-- The blanks inside a line. -/
def isBlank (c : Char) : Bool := c == ' ' || c == '\t'

/-- A text without blanks at its start. -/
def skipBlanks (text : Text) : Text :=
  text.dropWhile isBlank

/-- Whether a character may stand in comments and in texts. -/
def isPrintable (c : Char) : Bool :=
  c == '\t' || (0x20 ≤ c.toNat && c.toNat != 0x7F)

/-- Takes the end of a line. -/
def lineEnd? : Text → Option Text
  | '\n' :: rest => some rest
  | '\r' :: '\n' :: rest => some rest
  | _ => none

/-- Takes a comment, if there is one. -/
def skipComment (text : Text) : Text :=
  match text with
  | '#' :: rest => rest.dropWhile isPrintable
  | _ => text

/-- Takes blanks and an optional comment up to the end of a line or of the text. -/
def restOfLine? (text : Text) : Option Text :=
  match skipComment (skipBlanks text) with
  | [] => some []
  | text => lineEnd? text

/-- Takes blanks, comments and ends of lines. Each round takes a character, so the length of
the text is `fuel` enough. -/
def skipLines : (fuel : Nat) → Text → Text
  | 0, text => text
  | fuel + 1, text =>
    match lineEnd? (skipComment (skipBlanks text)) with
    | some rest => skipLines fuel rest
    | none => skipComment (skipBlanks text)

/-! ### Texts in quotes -/

/-- What a character stands for after a backslash. -/
def escapedChar? (c : Char) : Option Char :=
  [('b', '\x08'), ('t', '\t'), ('n', '\n'), ('f', '\x0c'), ('r', '\r'), ('e', '\x1b'),
    ('"', '"'), ('\\', '\\')].lookup c

/-- How many hexadecimal digits follow a letter after a backslash. -/
def codeLength? (c : Char) : Option Nat :=
  [('x', 2), ('u', 4), ('U', 8)].lookup c

/-- Takes an escape behind its backslash. -/
def escape? (text : Text) : Option (Char × Text) :=
  match text with
  | [] => none
  | c :: rest =>
    match codeLength? c with
    | none => (escapedChar? c).map (·, rest)
    | some length =>
      if (rest.take length).length < length then none
      else
        ((Text.hexValue? (rest.take length)).bind Text.charOfCode?).map (·, rest.drop length)

/-- Takes the blanks and line ends behind a backslash at the end of a line. -/
def joinLines (text : Text) : Text :=
  text.dropWhile fun c => isBlank c || c == '\n' || c == '\r'

/-- Whether only blanks stand between a backslash and the end of its line. -/
def endsLine (text : Text) : Bool :=
  (lineEnd? (skipBlanks text)).isSome

/-- Takes the content of a text on one line up to its quote. Escapes count inside double
quotes. -/
def shortString? (quote : Char) : (fuel : Nat) → Text → Option (Text × Text)
  | 0, _ => none
  | _, [] => none
  | fuel + 1, c :: rest =>
    if c = quote then some ([], rest)
    else if c = '\\' ∧ quote = '"' then do
      let (char, rest) ← escape? rest
      (shortString? quote fuel rest).map fun (content, rest) => (char :: content, rest)
    else if isPrintable c then
      (shortString? quote fuel rest).map fun (content, rest) => (c :: content, rest)
    else none

/-- Takes the content of a text on several lines up to three quotes; up to two more quotes
directly before them belong to the content. -/
def longString? (quote : Char) : (fuel : Nat) → Text → Option (Text × Text)
  | 0, _ => none
  | _, [] => none
  | fuel + 1, c :: rest =>
    if c = quote then
      let quotes := (c :: rest).takeWhile (· == quote)
      let after := (c :: rest).drop quotes.length
      -- fewer than three quotes are text
      if quotes.length < 3 then
        (longString? quote fuel after).map fun (content, rest) => (quotes ++ content, rest)
      else if quotes.length ≤ 5 then some (quotes.drop 3, after)
      else none
    else if c = '\\' ∧ quote = '"' then
      if endsLine rest then longString? quote fuel (joinLines rest)
      else do
        let (char, rest) ← escape? rest
        (longString? quote fuel rest).map fun (content, rest) => (char :: content, rest)
    else if isPrintable c ∨ (lineEnd? (c :: rest)).isSome then
      (longString? quote fuel rest).map fun (content, rest) => (c :: content, rest)
    else none

/-- Takes a text in quotes. A line end directly behind three opening quotes does not count. -/
def string? (text : Text) : Option (Text × Text) :=
  let long (quote : Char) (rest : Text) :=
    longString? quote (text.length + 1) ((lineEnd? rest).getD rest)
  match text with
  | '"' :: '"' :: '"' :: rest => long '"' rest
  | '\'' :: '\'' :: '\'' :: rest => long '\'' rest
  | '"' :: rest => shortString? '"' (text.length + 1) rest
  | '\'' :: rest => shortString? '\'' (text.length + 1) rest
  | _ => none

/-! ### Keys -/

/-- Whether a character may stand in a key without quotes. -/
def isKeyCharacter (c : Char) : Bool :=
  c.isAlphanum || c == '_' || c == '-'

/-- Takes a part of a key. -/
def simpleKey? (text : Text) : Option (Text × Text) :=
  match text with
  | '"' :: rest => shortString? '"' (text.length + 1) rest
  | '\'' :: rest => shortString? '\'' (text.length + 1) rest
  | _ =>
    let key := text.takeWhile isKeyCharacter
    if key = [] then none else some (key, text.drop key.length)

/-- Takes a key: parts with dots between them. -/
def key? : (fuel : Nat) → Text → Option (List Text × Text)
  | 0, _ => none
  | fuel + 1, text => do
    let (part, rest) ← simpleKey? (skipBlanks text)
    match skipBlanks rest with
    | '.' :: rest => (key? fuel rest).map fun (parts, rest) => (part :: parts, rest)
    | rest => some ([part], rest)

/-! ### Numbers -/

/-- The digits of a run in which single underscores may stand between digits. -/
def digitRun? (isDigit : Char → Bool) (run : Text) : Option Text :=
  let parts := Text.split (· == '_') run
  if parts.all fun part => part != [] && part.all isDigit then some parts.flatten else none

/-- The value of a run of digits of a base. -/
def based? (base : Nat) (run : Text) : Option Toml := do
  let isDigit (c : Char) : Bool := (Text.hexDigit? c).any (· < base)
  let digits ← digitRun? isDigit run
  let n := digits.foldl (fun n c => n * base + (Text.hexDigit? c).getD 0) 0
  if Width.signed 64 n then some (.integer n) else none

/-- The digits of a whole number without a leading zero. -/
def wholeDigits? (run : Text) : Option Text :=
  (digitRun? Char.isDigit run).filter fun digits => digits.length == 1 || digits.head? != some '0'

/-- The digits behind an exponent mark, with their sign. -/
def exponentDigits? (run : Text) : Option Text :=
  match run with
  | '-' :: digits => (digitRun? Char.isDigit digits).map ('-' :: ·)
  | '+' :: digits => digitRun? Char.isDigit digits
  | digits => digitRun? Char.isDigit digits

/-- A number with a fraction or an exponent, without its sign, in plain notation. -/
def floatText? (token : Text) : Option Text := do
  let mantissa := token.takeWhile fun c => c != 'e' && c != 'E'
  let exponent ←
    match token.drop mantissa.length with
    | [] => some []
    | _ :: run => (exponentDigits? run).map ('e' :: ·)
  match Text.cut? ['.'] mantissa with
  | none => return (← wholeDigits? mantissa) ++ exponent
  | some (whole, fraction) =>
    return (← wholeDigits? whole) ++ '.' :: (← digitRun? Char.isDigit fraction) ++ exponent

/-- A number with a sign in front of it. -/
def signed? (negative : Bool) (token : Text) : Option Toml :=
  if token = "inf".toList then some (.float (Number.infinity negative))
  else if token = "nan".toList then some (.float (Number.nan negative))
  else
    match wholeDigits? token with
    | some digits =>
      let n : Int := Text.digitsValue digits
      let n := if negative then -n else n
      if Width.signed 64 n then some (.integer n) else none
    | none => do
      let n ← (Number.ofText? (← floatText? token)).filter Number.isFinite
      return .float (if negative then n.neg else n)

/-- The number that a token spells. -/
def number? (token : Text) : Option Toml :=
  match token with
  | '0' :: 'x' :: run => based? 16 run
  | '0' :: 'o' :: run => based? 8 run
  | '0' :: 'b' :: run => based? 2 run
  | '+' :: rest => signed? false rest
  | '-' :: rest => signed? true rest
  | _ => signed? false token

/-! ### Dates and times -/

/-- The value of a text that consists of a number of digits. -/
def digits? (text : Text) : Option Nat :=
  if text ≠ [] ∧ text.all Char.isDigit then some (Text.digitsValue text) else none

/-- Takes two digits up to a greatest value. -/
def pair? (most : Nat) (text : Text) : Option (Text × Text) :=
  match text with
  | a :: b :: rest => if (digits? [a, b]).any (· ≤ most) then some ([a, b], rest) else none
  | _ => none

/-- Takes a date. -/
def date? (text : Text) : Option (Text × Text) := do
  let form := text.take 10
  match form with
  | [y₁, y₂, y₃, y₄, '-', m₁, m₂, '-', d₁, d₂] =>
    let year ← digits? [y₁, y₂, y₃, y₄]
    let date : Date := ⟨year, ← digits? [m₁, m₂], ← digits? [d₁, d₂]⟩
    if date.isValid then some (form, text.drop 10) else none
  | _ => none

/-- Takes a fraction of a second, of which nine digits count. -/
def fraction? (text : Text) : Option (Text × Text) :=
  match text with
  | '.' :: rest =>
    let digits := rest.takeWhile Char.isDigit
    if digits = [] then none
    else
      let kept := ((digits.take 9).reverse.dropWhile (· == '0')).reverse
      some ('.' :: (if kept = [] then ['0'] else kept), rest.drop digits.length)
  | _ => some ([], text)

/-- Takes a time of day; the seconds may be missing. -/
def time? (text : Text) : Option (Text × Text) := do
  let (hour, text) ← pair? 23 text
  match text with
  | ':' :: text => do
    let (minute, text) ← pair? 59 text
    let start := hour ++ ':' :: minute
    match text with
    | ':' :: text => do
      let (second, text) ← pair? 60 text
      let (fraction, text) ← fraction? text
      return (start ++ ':' :: second ++ fraction, text)
    | _ => return (start, text)
  | _ => none

/-- The usual form of an offset from universal time. -/
def offset? (text : Text) : Option Text :=
  match text with
  | ['Z'] | ['z'] => some ['Z']
  | sign :: rest =>
    if sign = '+' ∨ sign = '-' then do
      let (hour, rest) ← pair? 23 rest
      match rest with
      | ':' :: rest => do
        let (minute, rest) ← pair? 59 rest
        let isZero := (hour ++ minute).all (· == '0')
        if rest = [] then some ((if isZero then '+' else sign) :: hour ++ ':' :: minute) else none
      | _ => none
    else none
  | [] => none

/-- The usual form of a date, a time, or both. -/
def moment? (token : Text) : Option Text :=
  match date? token with
  | none => (time? token).bind fun (form, rest) => if rest = [] then some form else none
  | some (date, []) => some date
  | some (date, mark :: rest) =>
    if mark = 'T' ∨ mark = 't' ∨ mark = ' ' then do
      let (time, rest) ← time? rest
      let form := date ++ 'T' :: time
      if rest = [] then some form else (offset? rest).map (form ++ ·)
    else none

/-! ### Values -/

/-- Whether a character may stand in a value without quotes. -/
def isScalarCharacter (c : Char) : Bool :=
  c.isAlphanum || c == '_' || c == '-' || c == '+' || c == '.' || c == ':'

/-- The token at the start of a text. A single space may stand between a date and a time. -/
def scalarToken (text : Text) : Text :=
  let token := text.takeWhile isScalarCharacter
  match (date? token), text.drop token.length with
  | some (_, []), ' ' :: c :: rest =>
    if c.isDigit then token ++ ' ' :: (c :: rest).takeWhile isScalarCharacter else token
  | _, _ => token

/-- The value that a token spells. -/
def ofToken? (token : Text) : Option Toml :=
  if token = "true".toList then some (.bool true)
  else if token = "false".toList then some (.bool false)
  else (number? token).or ((moment? token).map .moment)

/-- Takes a number, a truth value, a date or a time. -/
def scalar? (text : Text) : Option (Toml × Text) :=
  let token := scalarToken text
  if token = [] then none else (ofToken? token).map (·, text.drop token.length)

/-- How deep arrays and tables in braces may nest. -/
def maxDepth : Nat := 80

mutual

/-- Takes a value. Every step takes a character, so the length of the text is `fuel` enough. -/
def value? (fuel depth : Nat) (text : Text) : Option (Toml × Text) :=
  match fuel with
  | 0 => none
  | fuel + 1 =>
    match text with
    | '[' :: rest =>
      match depth with
      | 0 => none
      | depth + 1 => (items? fuel depth rest).map fun (items, rest) => (.array items, rest)
    | '{' :: rest =>
      match depth with
      | 0 => none
      | depth + 1 => (pairs? fuel depth [] rest).map fun (entries, rest) => (.table .braces entries, rest)
    | c :: _ =>
      if Text.isQuote c then (string? text).map fun (content, rest) => (.string content, rest)
      else scalar? text
    | [] => none

/-- Takes the elements of an array up to its end. A comma may stand behind the last. -/
def items? (fuel depth : Nat) (text : Text) : Option (List Toml × Text) :=
  match fuel with
  | 0 => none
  | fuel + 1 =>
    match skipLines text.length text with
    | ']' :: rest => some ([], rest)
    | text => do
      let (item, rest) ← value? fuel depth text
      match skipLines rest.length rest with
      | ',' :: rest => (items? fuel depth rest).map fun (items, rest) => (item :: items, rest)
      | ']' :: rest => some ([item], rest)
      | _ => none

/-- Takes the pairs of a table in braces up to its end, in addition to the `entries` taken
before. A comma may stand behind the last. -/
def pairs? (fuel depth : Nat) (entries : Entries) (text : Text) : Option (Entries × Text) :=
  match fuel with
  | 0 => none
  | fuel + 1 =>
    match skipLines text.length text with
    | '}' :: rest => some (entries, rest)
    | text => do
      let (keys, rest) ← key? (text.length + 1) text
      match rest with
      | '=' :: rest => do
        let (value, rest) ← value? fuel depth (skipBlanks rest)
        let entries ← assign? keys value entries
        match skipLines rest.length rest with
        | ',' :: rest => pairs? fuel depth entries rest
        | '}' :: rest => some (entries, rest)
        | _ => none
      | _ => none

end

/-! ### Documents -/

/-- A document as far as it has been read. -/
structure Draft where
  /-- The entries of the whole document. -/
  entries : Entries := []
  /-- The path of the table that the last header opened. -/
  path : List Text := []

/-- Takes a header in single or double brackets and opens or appends its table. -/
def header? (draft : Draft) (text : Text) : Option (Draft × Text) :=
  match text with
  | '[' :: '[' :: rest => do
    let (path, rest) ← key? (rest.length + 1) rest
    match rest with
    | ']' :: ']' :: rest => return (⟨← appendTable? path draft.entries, path⟩, rest)
    | _ => none
  | '[' :: rest => do
    let (path, rest) ← key? (rest.length + 1) rest
    match rest with
    | ']' :: rest => return (⟨← openTable? path draft.entries, path⟩, rest)
    | _ => none
  | _ => none

/-- Takes a key with its value and adds it to the table that the last header opened. -/
def binding? (draft : Draft) (text : Text) : Option (Draft × Text) := do
  let (keys, rest) ← key? (text.length + 1) text
  match rest with
  | '=' :: rest => do
    let (value, rest) ← value? (2 * text.length + 2) maxDepth (skipBlanks rest)
    let entries ← descend? false (assign? keys value) draft.path draft.entries
    return ({ draft with entries := entries }, rest)
  | _ => none

/-- Reads the lines of a document. Every line takes a character, so the length of the text is
`fuel` enough. -/
def lines? : (fuel : Nat) → Draft → Text → Option Entries
  | 0, _, _ => none
  | fuel + 1, draft, text =>
    match skipLines text.length text with
    | [] => some draft.entries
    | '[' :: rest => do
      let (draft, rest) ← header? draft ('[' :: rest)
      lines? fuel draft (← restOfLine? rest)
    | text => do
      let (draft, rest) ← binding? draft text
      lines? fuel draft (← restOfLine? rest)

/-- Reads a whole document as a table. A byte order mark at its start does not count. -/
def parse? (text : Text) : Option Toml :=
  let text := match text with | '\uFEFF' :: rest => rest | _ => text
  (lines? (text.length + 1) {} text).map (.table .opened)

end Stencil.Toml
