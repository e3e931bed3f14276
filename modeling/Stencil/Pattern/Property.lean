import Stencil.Pattern.CharSet
import Stencil.Text.Table.Category
import Stencil.Text.Table.Script

/-!
# Unicode properties

The sets of characters that a pattern names by a Unicode property: a general category, a
script, or a property of its own. Names are compared without regard to letter case, blanks,
hyphens and underscores, and an `is` in front of them does not count.

## Main definitions

* `Property.normalized`: a name as it is compared
* `Property.category?`, `Property.script?`, `Property.named?`: the set with a name
* `Property.valued?`: the set of a property and its value
-/

namespace Stencil.Property

open Text.Table

/-- A name as it is compared. -/
def normalized (name : Text) : Text :=
  let isMarked := Text.sameIgnoringCase (name.take 2) "is"
  let kept := (if isMarked then name.drop 2 else name).filter fun c =>
    c.toNat < 128 && c != ' ' && c != '_' && c != '-'
  if isMarked && Text.lower kept == ['c'] then "isc" else Text.lower kept

/-- The characters in one of several sets. -/
def anyOf (sets : List CharSet) : CharSet :=
  sets.foldl .union .empty

/-! ### General categories -/

/-- The letters that come in pairs of cases, with their other forms. -/
def casedLetters : List CharSet :=
  [.table Category.uppercaseLetter, .table Category.lowercaseLetter,
    .table Category.titlecaseLetter]

/-- All letters. -/
def letters : CharSet :=
  anyOf (casedLetters ++ [.table Category.modifierLetter, .table Category.otherLetter])

/-- All punctuation. -/
def punctuation : CharSet :=
  anyOf [.table Category.connectorPunctuation, .table Category.dashPunctuation,
    .table Category.openPunctuation, .table Category.closePunctuation,
    .table Category.initialPunctuation, .table Category.finalPunctuation,
    .table Category.otherPunctuation]

/-- All symbols. -/
def symbols : CharSet :=
  anyOf [.table Category.mathSymbol, .table Category.currencySymbol,
    .table Category.modifierSymbol, .table Category.otherSymbol]

/-- All separators. -/
def separators : CharSet :=
  anyOf [.table Category.spaceSeparator, .table Category.lineSeparator,
    .table Category.paragraphSeparator]

/-- The characters of some category. -/
def assigned : CharSet :=
  anyOf [letters, .table mark, .table numeric, punctuation, symbols, separators,
    .table Category.control, .table Category.format, .table Category.privateUse]

/-- The general categories and their groups, with their names. -/
def categories : List (List String × CharSet) :=
  [(["any"], .complement .empty), (["ascii"], .range 0 0x7f), (["assigned"], assigned),
    (["l", "letter"], letters), (["lc", "casedletter"], anyOf casedLetters),
    (["lu", "uppercaseletter"], .table Category.uppercaseLetter),
    (["ll", "lowercaseletter"], .table Category.lowercaseLetter),
    (["lt", "titlecaseletter"], .table Category.titlecaseLetter),
    (["lm", "modifierletter"], .table Category.modifierLetter),
    (["lo", "otherletter"], .table Category.otherLetter),
    (["m", "mark", "combiningmark"], .table mark),
    (["mn", "nonspacingmark"], .table Category.nonspacingMark),
    (["mc", "spacingmark"], .table Category.spacingMark),
    (["me", "enclosingmark"], .table Category.enclosingMark),
    (["n", "number"], .table numeric),
    (["nd", "decimalnumber", "digit"], .digit),
    (["nl", "letternumber"], .table Category.letterNumber),
    (["no", "othernumber"], .table Category.otherNumber),
    (["p", "punctuation", "punct"], punctuation),
    (["pc", "connectorpunctuation"], .table Category.connectorPunctuation),
    (["pd", "dashpunctuation"], .table Category.dashPunctuation),
    (["ps", "openpunctuation"], .table Category.openPunctuation),
    (["pe", "closepunctuation"], .table Category.closePunctuation),
    (["pi", "initialpunctuation"], .table Category.initialPunctuation),
    (["pf", "finalpunctuation"], .table Category.finalPunctuation),
    (["po", "otherpunctuation"], .table Category.otherPunctuation),
    (["s", "symbol"], symbols),
    (["sm", "mathsymbol"], .table Category.mathSymbol),
    (["sc", "currencysymbol"], .table Category.currencySymbol),
    (["sk", "modifiersymbol"], .table Category.modifierSymbol),
    (["so", "othersymbol"], .table Category.otherSymbol),
    (["z", "separator"], separators),
    (["zs", "spaceseparator"], .table Category.spaceSeparator),
    (["zl", "lineseparator"], .table Category.lineSeparator),
    (["zp", "paragraphseparator"], .table Category.paragraphSeparator),
    (["c", "other", "isc"], anyOf [.table Category.control, .table Category.format,
      .table Category.privateUse, .complement assigned]),
    (["cc", "control", "cntrl"], .table Category.control),
    (["cf", "format"], .table Category.format),
    (["co", "privateuse"], .table Category.privateUse),
    (["cs", "surrogate"], .empty),
    (["cn", "unassigned"], .complement assigned)]

/-- The set that a list gives to a name. -/
def find? {α : Type} (entries : List (List String × α)) (name : Text) : Option α :=
  (entries.find? fun (names, _) => names.any fun other => other.toList == name).map Prod.snd

/-- The general category with a name. -/
def category? (name : Text) : Option CharSet :=
  find? categories name

/-! ### Scripts and other properties -/

/-- The script with a name. -/
def script? (name : Text) : Option CharSet :=
  (find? Script.all name).map .table

/-- The properties that are no categories, with their names. -/
def properties : List (List String × CharSet) :=
  [(["alphabetic", "alpha"], .table alphabetic),
    (["uppercase", "upper"],
      .union (.table Category.uppercaseLetter) (.table Category.otherCapital)),
    (["lowercase", "lower"],
      .union (.table Category.lowercaseLetter) (.table Category.otherSmall)),
    (["whitespace", "wspace", "space"], .blank),
    (["emoji"], .table Category.emoji)]

/-- The set with a name: a property, a category or a script. -/
def named? (name : Text) : Option CharSet :=
  let name := normalized name
  ((find? properties name).or (category? name)).or (script? name)

/-- The set of a property and its value. -/
def valued? (name value : Text) : Option CharSet :=
  let name := normalized name
  let value := normalized value
  if ["gc", "generalcategory"].any fun other => other.toList == name then category? value
  else if ["sc", "script", "scx", "scriptextensions"].any fun other => other.toList == name then
    script? value
  else none

/-- The set that a text in braces names: a name, or a name and a value behind an equals sign
or a colon; an exclamation mark before the sign makes it the complement. -/
def ofText? (text : Text) : Option CharSet :=
  match Text.cut? ['!', '='] text with
  | some (name, value) => (valued? name value).map .complement
  | none =>
    match (Text.cut? [':'] text).or (Text.cut? ['='] text) with
    | some (name, value) => valued? name value
    | none => named? text

end Stencil.Property
