import Stencil.Text.Quoted

/-!
# YAML tokens

A YAML text as a list of tokens. Indentation shows in tokens that open and close block
collections. A key without a mark of its own is recognised only at the colon behind it, so
the token that announces it is put in later, in front of what turned out to be the key.

## Main definitions

* `YamlToken`: tokens
* `Yaml.Scanner`: what has been read of a text, and what is still open
* `Yaml.plainText?`, `Yaml.quotedText?`, `Yaml.blockText?`: the three styles of scalars
* `Yaml.tokens?`: the tokens of a text
-/

namespace Stencil

/-- A token of a YAML text. -/
inductive YamlToken where
  /-- A directive; it changes nothing. -/
  | directive
  | documentStart
  | documentEnd
  | blockSequenceStart
  | blockMappingStart
  | blockEnd
  | flowSequenceStart
  | flowSequenceEnd
  | flowMappingStart
  | flowMappingEnd
  | blockEntry
  | flowEntry
  | key
  | value
  | alias (name : Text)
  | anchor (name : Text)
  | tag (name : Text)
  /-- A scalar, written plainly or with quotes or as a block. -/
  | scalar (content : Text) (isPlain : Bool)
  deriving DecidableEq, Repr

namespace Yaml

/-! ### Characters -/

/-- The characters that end a line. -/
def isBreak (c : Char) : Bool :=
  c == '\n' || c == '\r' || c == '\u0085' || c == '\u2028' || c == '\u2029'

/-- The blanks inside a line. -/
def isBlank (c : Char) : Bool := c == ' ' || c == '\t'

/-- The characters that may occur at all: no control characters apart from tabs and the ends
of lines, and not the last two code points of the basic plane. -/
def isAllowed (c : Char) : Bool :=
  let n := c.toNat
  n == 0x9 || n == 0xA || n == 0xD || (0x20 ≤ n && n ≤ 0x7E) || n == 0x85 ||
    (0xA0 ≤ n && n ≤ 0xFFFD) || 0x10000 ≤ n

/-- Whether a text starts with a blank or the end of a line, or is empty. -/
def startsBlank (text : Text) : Bool :=
  text.head?.all fun c => isBlank c || isBreak c

/-- Whether a text starts with a mark between documents. -/
def startsMark (text : Text) : Bool :=
  (("---".toList.isPrefixOf text) || ("...".toList.isPrefixOf text)) && startsBlank (text.drop 3)

/-- Takes the end of a line, in its usual form. -/
def lineEnd? : Text → Option (Char × Text)
  | '\r' :: '\n' :: rest => some ('\n', rest)
  | c :: rest =>
    if c == '\u2028' || c == '\u2029' then some (c, rest)
    else if isBreak c then some ('\n', rest)
    else none
  | [] => none

/-- The segments between the line ends of a run of blanks, and these line ends. -/
def segments : Text → List Text × Text
  | [] => ([[]], [])
  | '\r' :: '\n' :: rest =>
    let (parts, ends) := segments rest
    ([] :: parts, '\n' :: ends)
  | c :: rest =>
    let (parts, ends) := segments rest
    if isBreak c then ([] :: parts, (if c == '\u2028' || c == '\u2029' then c else '\n') :: ends)
    else
      match parts with
      | [] => ([[c]], ends)
      | part :: parts => ((c :: part) :: parts, ends)

/-- What a run of blanks inside a scalar counts as: itself inside a line, a space for one line
end, and all line ends but the first for several. -/
def folded (run : Text) : Text :=
  match segments run with
  | (_, []) => run
  | (_, '\n' :: []) => [' ']
  | (_, '\n' :: more) => more
  | (_, ends) => ends

/-! ### Plain scalars -/

/-- The characters that end a plain scalar inside a flow collection. -/
def isFlowMark (c : Char) : Bool := ",[]\x7b\x7d".toList.contains c

/-- Takes the characters of a plain scalar up to a blank or a mark. A colon directly in front
of a mark is wrong inside a flow collection. -/
def plainWord? (inFlow : Bool) : Text → Option (Text × Text)
  | [] => some ([], [])
  | c :: rest =>
    if isBlank c || isBreak c then some ([], c :: rest)
    else if inFlow && c == ':' && rest.head?.any (fun d => d == '?' || isFlowMark d) then none
    else if (c == ':' && startsBlank rest) || (inFlow && isFlowMark c) then some ([], c :: rest)
    else (plainWord? inFlow rest).map fun (word, rest) => (c :: word, rest)

/-- Whether a tab stands in the indentation of a line behind the first one of a run. -/
def hasTabIndent (indent : Int) (run : Text) : Bool :=
  (segments run).1.tail.any fun part => (part.take indent.toNat).contains '\t'

/-- A plain scalar as far as it was taken. -/
structure PlainText where
  /-- The content. -/
  content : Text
  /-- The text behind it. -/
  rest : Text
  /-- Whether the content is followed by a line end that was taken too. -/
  endsLine : Bool

/-- Takes a plain scalar. Blanks between words are folded; the scalar ends at a mark, at a
comment, or at a line that is not indented enough. `gap` is the run of blanks in front of
`text`, and every round takes a character, so the length of the text is `fuel` enough. -/
def plainFrom? (inFlow : Bool) (indent : Int) :
    (fuel : Nat) → (content gap text : Text) → Option PlainText
  | 0, content, gap, text => some ⟨content, text, gap.any isBreak⟩
  | fuel + 1, content, gap, text =>
    let column := (segments gap).1.getLast?.getD []
    if (gap.any isBreak && column == [] && startsMark text) || text.head? == some '#' then
      some ⟨content, text, gap.any isBreak⟩
    else
      match plainWord? inFlow text with
      | none => none
      | some ([], _) => some ⟨content, text, gap.any isBreak⟩
      | some (word, after) =>
        let content := content ++ folded gap ++ word
        let run := after.takeWhile fun c => isBlank c || isBreak c
        let rest := after.drop run.length
        if run = [] then some ⟨content, rest, false⟩
        else if hasTabIndent indent run then none
        else if !inFlow && run.any isBreak &&
            decide ((((segments run).1.getLast?.getD []).length : Int) < indent) then
          some ⟨content, rest, true⟩
        else plainFrom? inFlow indent fuel content run rest

/-- Takes a plain scalar at the start of a text. -/
def plainText? (inFlow : Bool) (indent : Int) (text : Text) : Option PlainText :=
  plainFrom? inFlow indent (text.length + 1) [] [] text

/-! ### Quoted scalars -/

/-- What a character stands for after a backslash. -/
def escapedChar? (c : Char) : Option Char :=
  [('0', '\x00'), ('a', '\x07'), ('b', '\x08'), ('t', '\t'), ('\t', '\t'), ('n', '\n'),
    ('v', '\x0b'), ('f', '\x0c'), ('r', '\r'), ('e', '\x1b'), (' ', ' '), ('"', '"'), ('/', '/'),
    ('\\', '\\'), ('N', '\u0085'), ('_', '\u00a0'), ('L', '\u2028'), ('P', '\u2029')].lookup c

/-- How many hexadecimal digits follow a letter after a backslash. -/
def codeLength? (c : Char) : Option Nat :=
  [('x', 2), ('u', 4), ('U', 8)].lookup c

/-- Takes an escape behind its backslash. -/
def escape? (text : Text) : Option (Char × Text) :=
  match text with
  | [] => none
  | c :: rest =>
    match codeLength? c with
    | none => (escapedChar? c).map (·, rest)
    | some length =>
      if (rest.take length).length < length then none
      else
        ((Text.hexValue? (rest.take length)).bind Text.charOfCode?).map (·, rest.drop length)

/-- Takes the content of a quoted scalar up to its quote. A single quote is written twice in
single quotes; escapes count in double quotes, where a backslash also joins lines. -/
def quotedFrom? (quote : Char) : (fuel : Nat) → (lineStart : Bool) → Text → Option (Text × Text)
  | 0, _, _ => none
  | _, _, [] => none
  | fuel + 1, lineStart, c :: rest =>
    if lineStart && startsMark (c :: rest) then none
    else if isBlank c || isBreak c then
      let run := (c :: rest).takeWhile fun c => isBlank c || isBreak c
      let atStart := run.any isBreak && run.getLast?.any isBreak
      (quotedFrom? quote fuel atStart ((c :: rest).drop run.length)).map fun (content, rest) =>
        (folded run ++ content, rest)
    else if c = quote then
      match quote, rest with
      | '\'', '\'' :: rest =>
        (quotedFrom? quote fuel false rest).map fun (content, rest) => ('\'' :: content, rest)
      | _, _ => some ([], rest)
    else if c = '\\' ∧ quote = '"' then
      match lineEnd? rest with
      | some (_, after) =>
        -- the line goes on with the next one, and only blank lines between them are kept
        let run := after.takeWhile fun c => isBlank c || isBreak c
        let atStart := run.getLast?.all isBreak
        (quotedFrom? quote fuel atStart (after.drop run.length)).map fun (content, rest) =>
          ((segments run).2 ++ content, rest)
      | none => do
        let (char, rest) ← escape? rest
        (quotedFrom? quote fuel false rest).map fun (content, rest) => (char :: content, rest)
    else (quotedFrom? quote fuel false rest).map fun (content, rest) => (c :: content, rest)

/-- Takes a quoted scalar behind its opening quote. -/
def quotedText? (quote : Char) (text : Text) : Option (Text × Text) :=
  quotedFrom? quote (text.length + 1) false text

/-! ### Block scalars -/

/-- How the end of a block scalar is kept: without line ends, with one, or with all. -/
inductive Chomping where
  | strip
  | clip
  | keep
  deriving DecidableEq, Repr

/-- The chomping that a character asks for. -/
def chompingOf? : Char → Option Chomping
  | '-' => some .strip
  | '+' => some .keep
  | _ => none

/-- The indentation that a digit asks for. -/
def indentOf? (c : Char) : Option Nat :=
  if c.isDigit && c != '0' then some (c.toNat - '0'.toNat) else none

/-- Takes the indicators of a block scalar, in either order. -/
def blockHeader (text : Text) : Chomping × Option Nat × Text :=
  match text with
  | [] => (.clip, none, [])
  | c :: rest =>
    match chompingOf? c, indentOf? c with
    | some chomping, _ =>
      match rest.head?.bind indentOf? with
      | some indent => (chomping, some indent, rest.tail)
      | none => (chomping, none, rest)
    | none, some indent =>
      match rest.head?.bind chompingOf? with
      | some chomping => (chomping, some indent, rest.tail)
      | none => (.clip, some indent, rest)
    | none, none => (.clip, none, text)

/-- Takes blank lines, with at most `indent` spaces each, and the indentation behind them.
Returns the line ends, the number of spaces in front of the rest, and the rest. -/
def blankLines? (indent : Nat) : (fuel : Nat) → Text → Option (Text × Nat × Text)
  | 0, _ => none
  | fuel + 1, text =>
    let width := ((text.take indent).takeWhile (· == ' ')).length
    let after := text.drop width
    if width < indent && after.head? == some '\t' then none
    else
      match lineEnd? after with
      | some (c, rest) =>
        (blankLines? indent fuel rest).map fun (ends, width, rest) => (c :: ends, width, rest)
      | none => some ([], width, after)

/-- The greatest indentation of blank lines and of the first line that is not blank. -/
def firstIndent? : (fuel : Nat) → Text → Option Nat
  | 0, _ => none
  | fuel + 1, text =>
    let width := (text.takeWhile (· == ' ')).length
    let after := text.drop width
    if after.head? == some '\t' then none
    else
      match lineEnd? after with
      | some (_, rest) => (firstIndent? fuel rest).map (max width)
      | none => some width

/-- A block scalar as far as it was taken. -/
structure BlockDraft where
  /-- The content up to the last line. -/
  content : Text := []
  /-- The end of the last line. -/
  lastEnd : Text := []
  /-- The ends of the blank lines behind it. -/
  blankEnds : Text := []
  /-- Whether the last line starts with a blank. -/
  startsBlank : Bool := false

/-- Adds a line to a block scalar. A folded scalar joins two lines that do not start with
blanks. -/
def BlockDraft.addLine (draft : BlockDraft) (isFolded : Bool) (line lineEnd : Text) : BlockDraft :=
  let blank := line.head?.any isBlank
  let joint :=
    if isFolded && draft.lastEnd == ['\n'] && !draft.startsBlank && !blank then
      if draft.blankEnds == [] then [' '] else []
    else draft.lastEnd
  ⟨draft.content ++ joint ++ draft.blankEnds ++ line, lineEnd, [], blank⟩

/-- Takes the lines of a block scalar that have its indentation. -/
def blockLines? (isFolded : Bool) (indent : Nat) :
    (fuel : Nat) → BlockDraft → (width : Nat) → Text → Option (BlockDraft × Text)
  | 0, _, _, _ => none
  | fuel + 1, draft, width, text =>
    if width ≠ indent ∨ text = [] then some (draft, text)
    else
      let line := text.takeWhile fun c => !isBreak c
      let (lineEnd, rest) : Text × Text :=
        match lineEnd? (text.drop line.length) with
        | some (c, rest) => ([c], rest)
        | none => ([], [])
      match blankLines? indent (rest.length + 1) rest with
      | none => none
      | some (ends, width, rest) =>
        blockLines? isFolded indent fuel
          { draft.addLine isFolded line lineEnd with blankEnds := ends } width rest

/-- Takes a block scalar behind its first indicator. -/
def blockText? (isFolded : Bool) (outer : Int) (text : Text) : Option (Text × Text) := do
  let (chomping, extra?, text) := blockHeader text
  let text := text.dropWhile isBlank
  let text := if text.head? == some '#' then text.dropWhile fun c => !isBreak c else text
  let text ←
    match text with
    | [] => some []
    | _ => (lineEnd? text).map Prod.snd
  -- the indentation is given in addition to that of the block around, or it is found out
  let indent ←
    match extra? with
    | some extra => some (if 0 ≤ outer then outer.toNat + extra else extra)
    | none =>
      (firstIndent? (text.length + 1) text).map fun width => max width (max (outer + 1).toNat 1)
  let (ends, width, rest) ← blankLines? indent (text.length + 1) text
  let (draft, rest) ←
    blockLines? isFolded indent (text.length + 1) { blankEnds := ends } width rest
  let tail :=
    match chomping with
    | .strip => []
    | .clip => draft.lastEnd
    | .keep => draft.lastEnd ++ draft.blankEnds
  return (draft.content ++ tail, rest)

/-! ### The scanner -/

/-- A place at which a key may have started. -/
structure PendingKey where
  /-- How many tokens stand in front of it. -/
  position : Nat
  /-- The line, the column and the character at which it starts. -/
  line : Nat
  column : Nat
  index : Nat
  /-- Whether it has to be a key, because it starts a line of a block mapping. -/
  required : Bool

/-- What has been read of a text, and what is still open. -/
structure Scanner where
  /-- The text that is still to be read. -/
  text : Text
  /-- The line, the column and the count of characters up to there. -/
  line : Nat := 0
  column : Nat := 0
  index : Nat := 0
  /-- The tokens, the latest first. -/
  latestFirst : List YamlToken := []
  /-- The indentation of the innermost block collection; minus one outside of all. -/
  indent : Int := -1
  /-- The indentations of the block collections around it. -/
  outer : List Int := []
  /-- What may be a key, for each flow collection that is open, and at the end for the block
  around them. -/
  keys : List (Option PendingKey) := [none]
  /-- Whether a key may start here. -/
  keyAllowed : Bool := true

namespace Scanner

/-- Whether a flow collection is open. -/
def inFlow (s : Scanner) : Bool := s.keys.length != 1

/-- Adds a token. -/
def push (s : Scanner) (token : YamlToken) : Scanner :=
  { s with latestFirst := token :: s.latestFirst }

/-- Puts a token behind the first `position` ones. -/
def putAt (s : Scanner) (position : Nat) (token : YamlToken) : Scanner :=
  { s with latestFirst := s.latestFirst.insertIdx (s.latestFirst.length - position) token }

/-- Goes on behind what was taken from the text, so that `rest` is left. -/
def goTo (s : Scanner) (rest : Text) : Scanner :=
  let taken := s.text.take (s.text.length - rest.length)
  taken.foldl (fun s c =>
    if isBreak c then { s with line := s.line + 1, column := 0, index := s.index + 1 }
    else { s with column := s.column + 1, index := s.index + 1 }) { s with text := rest }

/-- Goes on behind some characters. -/
def skip (s : Scanner) (count : Nat) : Scanner :=
  s.goTo (s.text.drop count)

/-- Closes the block collections that are indented more than a column. -/
def unroll (s : Scanner) (column : Int) : (outer : List Int) → Scanner
  | [] => s
  | indent :: outer =>
    if s.inFlow || s.indent ≤ column then s
    else unroll ({ s.push .blockEnd with indent := indent, outer := outer }) column outer

/-- Opens a block collection, if a column is indented more than the innermost one. The token
is put behind the first `position` ones. -/
def roll (s : Scanner) (column position : Nat) (token : YamlToken) : Scanner :=
  if s.inFlow || (column : Int) ≤ s.indent then s
  else { s.putAt position token with indent := column, outer := s.indent :: s.outer }

/-- The number of tokens so far. -/
def count (s : Scanner) : Nat := s.latestFirst.length

/-- Gives up what may have been a key; one that had to be a key is wrong. -/
def dropKey? (s : Scanner) : Option Scanner :=
  match s.keys with
  | some key :: keys => if key.required then none else some { s with keys := none :: keys }
  | _ => some s

/-- Notes that a key may start here. -/
def saveKey? (s : Scanner) : Option Scanner :=
  if !s.keyAllowed then some s
  else
    s.dropKey?.map fun s =>
      let key : PendingKey :=
        ⟨s.count, s.line, s.column, s.index, !s.inFlow && s.indent == (s.column : Int)⟩
      { s with keys := some key :: s.keys.tail }

/-- The most characters that a key without a mark may have. -/
def maxKeyLength : Nat := 1024

/-- Gives up everything that cannot be a key any more, because its line has ended or it would
be too long. -/
def dropStaleKeys? (s : Scanner) : Option Scanner :=
  let isStale (key : PendingKey) : Bool :=
    key.line < s.line || key.index + maxKeyLength < s.index
  if s.keys.any fun key => key.any fun key => isStale key && key.required then none
  else some { s with keys := s.keys.map fun key => key.filter fun key => !isStale key }

/-- Skips blanks, comments and line ends in front of a token. Tabs may not stand where a key
of a block may start. -/
def skipBlanks : (fuel : Nat) → Scanner → Scanner
  | 0, s => s
  | fuel + 1, s =>
    let rest := s.text.dropWhile fun c => c == ' ' || ((s.inFlow || !s.keyAllowed) && c == '\t')
    let rest := if rest.head? == some '#' then rest.dropWhile fun c => !isBreak c else rest
    match lineEnd? rest with
    | some (_, rest) =>
      skipBlanks fuel { s.goTo rest with keyAllowed := s.keyAllowed || !s.inFlow }
    | none => s.goTo rest

/-- Takes a mark between documents. -/
def documentMark? (s : Scanner) (token : YamlToken) : Option Scanner :=
  (s.unroll (-1) s.outer).dropKey?.map fun s =>
    { (s.skip 3).push token with keyAllowed := false }

/-- Takes a directive, up to the end of its line. -/
def directive? (s : Scanner) : Option Scanner :=
  (s.unroll (-1) s.outer).dropKey?.map fun s =>
    { (s.goTo (s.text.dropWhile fun c => !isBreak c)).push .directive with keyAllowed := false }

/-- Takes the start of a flow collection. -/
def flowStart? (s : Scanner) (token : YamlToken) : Option Scanner :=
  s.saveKey?.map fun s =>
    { (s.skip 1).push token with keys := none :: s.keys, keyAllowed := true }

/-- Takes the end of a flow collection. -/
def flowEnd? (s : Scanner) (token : YamlToken) : Option Scanner :=
  s.dropKey?.map fun s =>
    { (s.skip 1).push token with
      keys := if s.inFlow then s.keys.tail else s.keys, keyAllowed := false }

/-- Takes a comma between the entries of a flow collection. -/
def flowEntry? (s : Scanner) : Option Scanner :=
  s.dropKey?.map fun s => { (s.skip 1).push .flowEntry with keyAllowed := true }

/-- Takes the dash in front of an entry of a block sequence. -/
def blockEntry? (s : Scanner) : Option Scanner :=
  if !s.inFlow && !s.keyAllowed then none
  else
    (s.roll s.column s.count .blockSequenceStart).dropKey?.map fun s =>
      { (s.skip 1).push .blockEntry with keyAllowed := true }

/-- Takes the mark in front of a key. -/
def explicitKey? (s : Scanner) : Option Scanner :=
  if !s.inFlow && !s.keyAllowed then none
  else
    (s.roll s.column s.count .blockMappingStart).dropKey?.map fun s =>
      { (s.skip 1).push .key with keyAllowed := !s.inFlow }

/-- Takes the colon in front of a value. What may have been a key is one. -/
def value? (s : Scanner) : Option Scanner :=
  match s.keys with
  | some key :: keys =>
    let s := (s.putAt key.position .key).roll key.column key.position .blockMappingStart
    some { (s.skip 1).push .value with keys := none :: keys, keyAllowed := false }
  | _ =>
    if !s.inFlow && !s.keyAllowed then none
    else
      let s := s.roll s.column s.count .blockMappingStart
      some { (s.skip 1).push .value with keyAllowed := !s.inFlow }

/-- Takes the name of an anchor or of an alias. -/
def reference? (s : Scanner) (token : Text → YamlToken) : Option Scanner := do
  let s ← s.saveKey?
  let name := s.text.tail.takeWhile fun c => c.isAlphanum || c == '_' || c == '-'
  let rest := s.text.drop (name.length + 1)
  if name ≠ [] ∧ (startsBlank rest ∨ rest.head?.any fun c => "?:,]\x7d%@\x60".toList.contains c) then
    some { (s.goTo rest).push (token name) with keyAllowed := false }
  else none

/-- The full name of a tag. -/
def tagName (written : Text) : Text :=
  match written with
  | '!' :: '<' :: rest => rest.dropLast
  | '!' :: '!' :: rest => "tag:yaml.org,2002:".toList ++ rest
  | _ => written

/-- Takes a tag. -/
def tag? (s : Scanner) : Option Scanner :=
  s.saveKey?.map fun s =>
    let written := s.text.takeWhile fun c =>
      !isBlank c && !isBreak c && !(s.inFlow && isFlowMark c)
    { (s.skip written.length).push (.tag (tagName written)) with keyAllowed := false }

/-- Takes a scalar in quotes. -/
def quoted? (s : Scanner) (quote : Char) : Option Scanner := do
  let s ← s.saveKey?
  let (content, rest) ← quotedText? quote s.text.tail
  return { (s.goTo rest).push (.scalar content false) with keyAllowed := false }

/-- Takes a block scalar. -/
def block? (s : Scanner) (isFolded : Bool) : Option Scanner := do
  let s ← s.dropKey?
  let (content, rest) ← blockText? isFolded s.indent s.text.tail
  return { (s.goTo rest).push (.scalar content false) with keyAllowed := true }

/-- Takes a plain scalar. -/
def plain? (s : Scanner) : Option Scanner := do
  let s ← s.saveKey?
  let plain ← plainText? s.inFlow (s.indent + 1) s.text
  return { (s.goTo plain.rest).push (.scalar plain.content true) with keyAllowed := plain.endsLine }

/-- Whether a plain scalar may start with a character in front of a text. -/
def startsPlain (s : Scanner) (c : Char) (rest : Text) : Bool :=
  !"-?:,[]\x7b\x7d#&*!|>'\"%@\x60".toList.contains c || (c == '-' && !rest.head?.all isBlank) ||
    (!s.inFlow && (c == '?' || c == ':') && !startsBlank rest)

/-- Takes the next token, which starts with a character in front of a text. -/
def token? (s : Scanner) (c : Char) (rest : Text) : Option Scanner :=
  if s.column == 0 && c == '%' then s.directive?
  else if s.column == 0 && startsMark s.text then
    s.documentMark? (if c == '-' then .documentStart else .documentEnd)
  else if c == '[' then s.flowStart? .flowSequenceStart
  else if c == '{' then s.flowStart? .flowMappingStart
  else if c == ']' then s.flowEnd? .flowSequenceEnd
  else if c == '}' then s.flowEnd? .flowMappingEnd
  else if c == ',' then s.flowEntry?
  else if c == '-' && startsBlank rest then s.blockEntry?
  else if c == '?' && (s.inFlow || startsBlank rest) then s.explicitKey?
  else if c == ':' && (s.inFlow || startsBlank rest) then s.value?
  else if c == '*' then s.reference? .alias
  else if c == '&' then s.reference? .anchor
  else if c == '!' then s.tag?
  else if c == '|' && !s.inFlow then s.block? false
  else if c == '>' && !s.inFlow then s.block? true
  else if c == '\'' || c == '"' then s.quoted? c
  else if s.startsPlain c rest then s.plain?
  else none

/-- Takes all tokens. Every token takes a character, so the length of the text is `fuel`
enough. -/
def run? : (fuel : Nat) → Scanner → Option Scanner
  | 0, _ => none
  | fuel + 1, s => do
    let s ← (s.skipBlanks (s.text.length + 1)).dropStaleKeys?
    match s.text with
    | [] => (s.unroll (-1) s.outer).dropKey?
    | c :: rest => run? fuel (← (s.unroll s.column s.outer).token? c rest)

end Scanner

/-- The tokens of a text of allowed characters. A byte order mark at its start does not
count. -/
def tokens? (text : Text) : Option (List YamlToken) :=
  let text := match text with | '\uFEFF' :: rest => rest | _ => text
  if !text.all isAllowed then none
  else (Scanner.run? (text.length + 1) { text := text }).map fun s => s.latestFirst.reverse

end Yaml

end Stencil
