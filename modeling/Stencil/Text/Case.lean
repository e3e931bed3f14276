import Stencil.Text.Blank
import Stencil.Text.Letter
import Stencil.Text.Table.Casing

/-!
# Letter case

Full case mappings of texts. One character may become several, and a capital sigma at the
end of a word has its own small form.

## Main definitions

* `Text.upperCase`, `Text.lowerCase`: the mappings of whole texts
* `Text.titleCase`: the first character after a blank in upper case, the others in lower
* `Text.caseVariants`: the characters that equal a character when case is ignored
-/

namespace Stencil.Text

open Table

/-- Maps a code point by the run that holds it, if there is one. -/
def findRun? (runs : Array CaseRun) (n : Nat) : Option Nat :=
  (runs.find? fun run => run.first ≤ n && n ≤ run.last && (n - run.first) % run.step == 0).map
    fun run => ((n : Int) + run.shift).toNat

/-- The case form of a character by a table of long forms and a table of runs. -/
def caseForm (long : Array (Nat × List Nat)) (runs : Array CaseRun) (c : Char) : Text :=
  match long.find? fun (n, _) => n == c.toNat with
  | some (_, form) => form.map Char.ofNat
  | none =>
    match findRun? runs c.toNat with
    | some n => [Char.ofNat n]
    | none => [c]

/-- The upper case form of a character. -/
def upperForm (c : Char) : Text :=
  if c.toNat < 128 then [c.toUpper] else caseForm upperLong upperRuns c

/-- The lower case form of a character on its own. -/
def lowerForm (c : Char) : Text :=
  if c.toNat < 128 then [c.toLower] else caseForm lowerLong lowerRuns c

/-- The upper case form of a text. -/
def upperCase (text : Text) : Text :=
  text.flatMap upperForm

/-- The first character that does not count as ignorable for case is a cased letter. -/
def meetsCased (text : Text) : Bool :=
  match text.dropWhile fun c => inRanges caseIgnorable c.toNat with
  | c :: _ => inRanges cased c.toNat
  | [] => false

/-- The lower case form of `text`, which stands behind the reversed text `behind`. A capital
sigma that ends a word becomes the final small sigma. -/
def lowerCaseFrom : (behind : Text) → (text : Text) → Text
  | _, [] => []
  | behind, c :: rest =>
    let form :=
      if c = 'Σ' then
        if meetsCased behind && !meetsCased rest then ['ς'] else ['σ']
      else lowerForm c
    form ++ lowerCaseFrom (c :: behind) rest

/-- The lower case form of a text. -/
def lowerCase (text : Text) : Text :=
  lowerCaseFrom [] text

/-- Upper case where `atWordStart`, and after every blank; lower case elsewhere. -/
def titleCaseFrom : (atWordStart : Bool) → (text : Text) → Text
  | _, [] => []
  | atWordStart, c :: rest =>
    if isBlank c then c :: titleCaseFrom true rest
    else if atWordStart then upperForm c ++ titleCaseFrom false rest
    else lowerForm c ++ titleCaseFrom false rest

/-- Every word with its first character in upper case and the others in lower case. -/
def titleCase (text : Text) : Text :=
  titleCaseFrom true text

/-- The least character that equals a character when case is ignored. -/
def foldForm (n : Nat) : Nat :=
  (findRun? foldRuns n).getD n

/-- All code points that equal a character when case is ignored, itself included. -/
def caseVariants (c : Char) : List Nat :=
  let least := foldForm c.toNat
  least :: foldRuns.toList.filterMap fun run =>
    let n := ((least : Int) - run.shift).toNat
    if run.first ≤ n && n ≤ run.last && (n - run.first) % run.step == 0 then some n else none

end Stencil.Text
