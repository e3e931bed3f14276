import Stencil.Pattern.Machine
import Stencil.Pattern.Reader

/-!
# Replacing matches

A replacement text may refer to the groups of a match by number or by name. A pattern in a
template is written between delimiters, with letters behind them that set flags.

## Main definitions

* `Pattern.expand`: a replacement text with the groups of a match filled in
* `Pattern.replaceAll`: every match in a text replaced
* `Pattern.splitDelimited?`: the pattern and the flags of a delimited text
* `Text.replacePattern?`: replaces a plain text or a delimited pattern
-/

namespace Stencil.Pattern

/-! ### Replacement texts -/

/-- The text of a group in a match. -/
def groupText (text : Text) (slots : Program.Slots) (index : Nat) : Text :=
  match slots[2 * index]?, slots[2 * index + 1]? with
  | some (some start), some (some stop) => Text.slice text start stop
  | _, _ => []

/-- The characters of a reference without braces. -/
def isReferenceCharacter (c : Char) : Bool := c.isAlphanum || c == '_'

/-- The text of a group given by number or by name; that of an unknown group is empty. -/
def referenced (names : List (Text × Nat)) (group : Nat → Text) (name : Text) : Text :=
  match Text.natural? name with
  | some index => group index
  | none =>
    match names.find? fun (other, _) => other == name with
    | some (_, index) => group index
    | none => []

/-- Fills in the groups of a match. Two dollar signs stand for one; a dollar sign before a
number, a name, or either in braces refers to a group; any other one stands for itself.
`skip` counts the characters of a reference that was filled in before. -/
def expandFrom (names : List (Text × Nat)) (group : Nat → Text) : (skip : Nat) → Text → Text
  | _, [] => []
  | skip + 1, _ :: rest => expandFrom names group skip rest
  | 0, c :: rest =>
    if c = '$' then
      match rest with
      | '$' :: _ => '$' :: expandFrom names group 1 rest
      | '\x7b' :: inside =>
        let name := inside.takeWhile (· != '\x7d')
        if name.length < inside.length then
          referenced names group name ++ expandFrom names group (name.length + 2) rest
        else c :: expandFrom names group 0 rest
      | _ =>
        let name := rest.takeWhile isReferenceCharacter
        if name = [] then c :: expandFrom names group 0 rest
        else referenced names group name ++ expandFrom names group name.length rest
    else c :: expandFrom names group 0 rest

/-- A replacement text with the groups of a match filled in. -/
def expand (names : List (Text × Nat)) (group : Nat → Text) (replacement : Text) : Text :=
  expandFrom names group 0 replacement

/-! ### All matches -/

/-- Replaces the matches from a place on that stands behind the character `before`. An
empty match directly behind another match does not count. Every round takes a character or
is followed by one that does, so twice the length is `fuel` enough. -/
def replaceFrom (program : Program) (start : Nat) (source : Source) (replacement : Text) :
    (fuel : Nat) → (before : Option Char) → (behindMatch : Bool) → Text → Text
  | 0, _, _, text => text
  | fuel + 1, before, behindMatch, text =>
    match program.search? start source.groups before text with
    | none => text
    | some slots =>
      match slots[0]?, slots[1]? with
      | some (some first), some (some last) =>
        if last = 0 && behindMatch then
          -- to go on, a character is copied
          match text with
          | [] => []
          | c :: rest => c :: replaceFrom program start source replacement fuel (some c) false rest
        else
          text.take first ++ expand source.names (groupText text slots) replacement ++
            replaceFrom program start source replacement fuel
              ((text.take last).getLast?.or before) true (text.drop last)
      | _, _ => text

/-- Every match of a pattern replaced, from left to right. -/
def replaceAll (source : Source) (replacement text : Text) : Text :=
  let (program, start) := Program.ofPattern source.pattern
  replaceFrom program start source replacement (2 * text.length + 2) none false text

/-! ### Delimited patterns -/

/-- The characters that delimit a pattern. -/
def isDelimiter (c : Char) : Bool := c == '/' || c == '#' || c == '~'

/-- The flag that a letter behind a pattern sets. -/
def Flags.withLetter (flags : Flags) (letter : Char) : Flags :=
  match letter with
  | 'i' => { flags with anyCase := true }
  | 'm' => { flags with multiLine := true }
  | 's' => { flags with dotAll := true }
  | 'x' => { flags with verbose := true }
  | _ => flags

/-- The pattern between two delimiters of one kind, and the letters behind the second, which
is the last in the text. -/
def splitDelimited? (text : Text) : Option (Text × Text) :=
  match text with
  | [] => none
  | delimiter :: rest =>
    if isDelimiter delimiter then
      (Text.cutLast? [delimiter] rest).filter fun (_, letters) =>
        letters.all fun c => "imsxu".toList.contains c
    else none

end Pattern

/-- Replaces a delimited pattern, or any other text as it stands, wherever it occurs. None
if the pattern cannot be read. -/
def Text.replacePattern? (text pattern replacement : Text) : Option Text :=
  match Pattern.splitDelimited? pattern with
  | none => some (Text.replaceAll pattern replacement text)
  | some (body, letters) =>
    (Pattern.read? (letters.foldl Pattern.Flags.withLetter {}) body).map fun source =>
      Pattern.replaceAll source replacement text

end Stencil
