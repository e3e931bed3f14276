import Stencil.Text.Letter
import Stencil.Text.Blank

/-!
# Tags

A tag is a directive between an opening and a closing marker of two braces. A closing
marker closes the last opening marker in front of it; opening markers before that one are
running text.

## Main definitions

* `Markup.opening`, `Markup.closing`: the markers
* `Markup.normalize`: a directive with plain blanks only, and none at its ends
* `Markup.splitKeyword`: the leading word of a directive and what follows it
* `Markup.nextTag?`: the first tag of a text, with the text around it
* `Markup.tags`: all tags of a text, with their positions

## Main results

* `Markup.NextTag.eq_text`: a tag and the text around it make up the text
-/

namespace Stencil.Markup

/-- The marker that opens a tag. -/
def opening : Text := ['{', '{']

/-- The marker that closes a tag. -/
def closing : Text := ['}', '}']

/-! ### Directives -/

/-- The directive with HTML spaces and every blank as plain spaces, and none at its ends. -/
def normalize (directive : Text) : Text :=
  let spaced := Text.replaceAll "&#160;" " " (Text.replaceAll "&nbsp;" " " directive)
  Text.trim (spaced.map fun c => if Text.isBlank c then ' ' else c)

/-- The leading word of letters `A` to `Z` and what follows it. A word that goes on with
another letter, a digit, an underscore or a dot is no keyword. -/
def splitKeyword (directive : Text) : Text × Text :=
  let word := directive.takeWhile Char.isAlpha
  let rest := directive.dropWhile Char.isAlpha
  if rest.head?.any fun c => Text.isAlphanumeric c || c == '_' || c == '.' then ([], directive)
  else (word, rest)

/-! ### The next tag -/

/-- The first tag of a text: what stands before it, its content, and what follows. -/
structure NextTag where
  /-- The text before the tag. -/
  before : Text
  /-- The text between the markers. -/
  inner : Text
  /-- The text behind the tag. -/
  after : Text

namespace NextTag

/-- The tag with its markers. -/
def raw (tag : NextTag) : Text := opening ++ tag.inner ++ closing

end NextTag

/-- The first tag of a text. The first closing marker behind the first opening marker
closes it, and the last opening marker between the two opens it. -/
def nextTag? (text : Text) : Option NextTag :=
  match Text.cut? opening text with
  | none => none
  | some (before, rest) =>
    match Text.cut? closing rest with
    | none => none
    | some (inside, after) =>
      match Text.cutLast? opening inside with
      | none => some ⟨before, inside, after⟩
      | some (stray, inner) => some ⟨before ++ opening ++ stray, inner, after⟩

/-- A tag and the text around it make up the text. -/
theorem NextTag.eq_text {text : Text} {tag : NextTag} (h : nextTag? text = some tag) :
    text = tag.before ++ tag.raw ++ tag.after := by
  unfold nextTag? at h
  split at h
  · simp at h
  · next before rest first =>
    split at h
    · simp at h
    · next inside after second =>
      have outer := Text.eq_append_of_cut? first
      have middle := Text.eq_append_of_cut? second
      split at h
      · simp only [Option.some.injEq] at h
        subst h
        simp [NextTag.raw, outer, middle]
      · next stray inner third =>
        have inmost := Text.eq_append_of_cutLast? third
        simp only [Option.some.injEq] at h
        subst h
        simp [NextTag.raw, outer, middle, inmost]

/-- What follows a tag is shorter than the text. -/
theorem NextTag.length_after_lt {text : Text} {tag : NextTag} (h : nextTag? text = some tag) :
    tag.after.length < text.length := by
  have := congrArg List.length (NextTag.eq_text h)
  simp only [NextTag.raw, opening, closing, List.length_append, List.length_cons,
    List.length_nil] at this
  omega

/-- What follows the opening marker of a tag is shorter than the text. -/
theorem NextTag.length_inner_lt {text : Text} {tag : NextTag} (h : nextTag? text = some tag) :
    (tag.inner ++ closing ++ tag.after).length < text.length := by
  have := congrArg List.length (NextTag.eq_text h)
  simp only [NextTag.raw, opening, closing, List.length_append, List.length_cons,
    List.length_nil] at this ⊢
  omega

/-! ### All tags -/

/-- A tag with its place in a text. -/
structure Tag where
  /-- The position of the opening marker. -/
  start : Nat
  /-- The position behind the closing marker. -/
  stop : Nat
  /-- The leading word of the directive, in lower case. -/
  keyword : Text
  /-- The directive behind the keyword. -/
  rest : Text
  deriving DecidableEq, Repr

/-- The tag with a given content between given positions. -/
def Tag.ofInner (start stop : Nat) (inner : Text) : Tag :=
  let (keyword, rest) := splitKeyword (normalize inner)
  ⟨start, stop, Text.lower keyword, Text.trim rest⟩

/-- All tags of a text that starts at a given position. -/
def tagsFrom (position : Nat) (text : Text) : List Tag :=
  match _found : nextTag? text with
  | none => []
  | some tag =>
    let start := position + tag.before.length
    let stop := start + tag.raw.length
    Tag.ofInner start stop tag.inner :: tagsFrom stop tag.after
termination_by text.length
decreasing_by exact NextTag.length_after_lt ‹_›

/-- All tags of a text. -/
def tags (text : Text) : List Tag :=
  tagsFrom 0 text

end Stencil.Markup
