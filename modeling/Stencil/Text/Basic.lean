import Stencil.Number.Width

/-!
# Texts

A text is a list of Unicode characters. Templates, keys, expressions and file contents
are texts; positions inside a text are counted in UTF-8 bytes.

## Main definitions

* `Text`: a list of characters
* `Text.byteLength`: the length in UTF-8 bytes
* `Text.cut?`, `Text.cutLast?`: the text before and after the first or last occurrence
  of a pattern
* `Text.replacing`: one left-to-right pass that replaces what a recogniser finds
* `Text.split`, `Text.join`: parts between separators
* `Text.lower`, `Text.sameIgnoringCase`: letter case of the letters `A` to `Z`
-/

namespace Stencil

/-- A text is a list of Unicode characters. -/
abbrev Text := List Char

instance : Coe String Text := ⟨String.toList⟩

namespace Text

/-! ### Length and order -/

/-- The number of bytes of the UTF-8 form of a text. -/
def byteLength (text : Text) : Nat :=
  text.foldr (fun c length => c.utf8Size + length) 0

@[simp]
theorem byteLength_nil : byteLength [] = 0 := rfl

@[simp]
theorem byteLength_cons (c : Char) (text : Text) :
    byteLength (c :: text) = c.utf8Size + byteLength text := rfl

@[simp]
theorem byteLength_append (s t : Text) : byteLength (s ++ t) = byteLength s + byteLength t := by
  induction s with
  | nil => simp
  | cons c s ih => simp [ih, Nat.add_assoc]

/-- Texts are ordered by their first differing character; a proper beginning comes first.
This is also the order of their UTF-8 bytes. -/
def order : Text → Text → Ordering
  | [], [] => .eq
  | [], _ :: _ => .lt
  | _ :: _, [] => .gt
  | c :: s, d :: t => (compare c.val d.val).then (order s t)

/-! ### Occurrences of a pattern -/

/-- The text before and after the first occurrence of a pattern. -/
def cut? (pattern : Text) : Text → Option (Text × Text)
  | [] => (pattern.isPrefixOf? []).map ([], ·)
  | c :: rest =>
    match pattern.isPrefixOf? (c :: rest) with
    | some after => some ([], after)
    | none => (cut? pattern rest).map fun (before, after) => (c :: before, after)

/-- The text before and after the last occurrence of a pattern. -/
def cutLast? (pattern : Text) : Text → Option (Text × Text)
  | [] => (pattern.isPrefixOf? []).map ([], ·)
  | c :: rest =>
    match cutLast? pattern rest with
    | some (before, after) => some (c :: before, after)
    | none => (pattern.isPrefixOf? (c :: rest)).map ([], ·)

theorem eq_append_of_isPrefixOf? {pattern text after : Text}
    (h : pattern.isPrefixOf? text = some after) : text = pattern ++ after := by
  induction pattern generalizing text with
  | nil =>
    change some text = some after at h
    simpa using h
  | cons c pattern ih =>
    cases text with
    | nil =>
      change none = some after at h
      contradiction
    | cons d text =>
      change (if c == d then pattern.isPrefixOf? text else none) = some after at h
      split at h
      · next same => simp [eq_of_beq same, ih h]
      · contradiction

/-- The two parts of a first cut and the pattern between them make up the text. -/
theorem eq_append_of_cut? {pattern text before after : Text}
    (h : cut? pattern text = some (before, after)) : text = before ++ pattern ++ after := by
  induction text generalizing before with
  | nil =>
    simp only [cut?, Option.map_eq_some_iff, Prod.mk.injEq] at h
    obtain ⟨rest, hrest, rfl, rfl⟩ := h
    simpa using eq_append_of_isPrefixOf? hrest
  | cons c rest ih =>
    simp only [cut?] at h
    split at h
    · next found =>
      simp only [Option.some.injEq, Prod.mk.injEq] at h
      obtain ⟨rfl, rfl⟩ := h
      simpa using eq_append_of_isPrefixOf? found
    · simp only [Option.map_eq_some_iff, Prod.mk.injEq] at h
      obtain ⟨⟨b, a⟩, hcut, rfl, rfl⟩ := h
      simp [ih hcut]

/-- The two parts of a last cut and the pattern between them make up the text. -/
theorem eq_append_of_cutLast? {pattern text before after : Text}
    (h : cutLast? pattern text = some (before, after)) : text = before ++ pattern ++ after := by
  induction text generalizing before after with
  | nil =>
    simp only [cutLast?, Option.map_eq_some_iff, Prod.mk.injEq] at h
    obtain ⟨rest, hrest, rfl, rfl⟩ := h
    simpa using eq_append_of_isPrefixOf? hrest
  | cons c rest ih =>
    simp only [cutLast?] at h
    split at h
    · next b a found =>
      simp only [Option.some.injEq, Prod.mk.injEq] at h
      obtain ⟨rfl, rfl⟩ := h
      simp [ih found]
    · simp only [Option.map_eq_some_iff, Prod.mk.injEq] at h
      obtain ⟨a, hrest, rfl, rfl⟩ := h
      simpa using eq_append_of_isPrefixOf? hrest

/-! ### Replacement in one pass -/

/-- Walks a text from left to right. Where `find` recognises the first `n + 1` characters
of what is left and names their replacement, the replacement is written and the walk goes
on behind them; every other character is copied. `skip` counts characters that were
recognised before. -/
def replacingFrom (find : Text → Option (Nat × Text)) : Nat → Text → Text
  | _, [] => []
  | skip + 1, _ :: rest => replacingFrom find skip rest
  | 0, c :: rest =>
    match find (c :: rest) with
    | some (length, replacement) => replacement ++ replacingFrom find (length - 1) rest
    | none => c :: replacingFrom find 0 rest

/-- One left-to-right pass that replaces what `find` recognises. Replacements are not
looked at again. -/
def replacing (find : Text → Option (Nat × Text)) (text : Text) : Text :=
  replacingFrom find 0 text

/-- Replaces every occurrence of a non-empty pattern, from left to right. -/
def replaceAll (pattern replacement text : Text) : Text :=
  replacing (fun rest =>
    if pattern ≠ [] ∧ pattern.isPrefixOf rest then some (pattern.length, replacement) else none)
    text

/-! ### Parts -/

/-- The parts of a text between the characters that satisfy `isSeparator`. -/
def split (isSeparator : Char → Bool) : Text → List Text
  | [] => [[]]
  | c :: rest =>
    if isSeparator c then [] :: split isSeparator rest
    else
      match split isSeparator rest with
      | [] => [[c]]
      | part :: parts => (c :: part) :: parts

/-- Joins parts with a separator between them. -/
def join (separator : Text) (parts : List Text) : Text :=
  List.intercalate separator parts

/-- Removes the characters that satisfy `isPadding` from both ends. -/
def trimBy (isPadding : Char → Bool) (text : Text) : Text :=
  ((text.dropWhile isPadding).reverse.dropWhile isPadding).reverse

/-- Fills a text up to a width with padding in front of it. -/
def padLeft (width : Nat) (padding : Char) (text : Text) : Text :=
  List.replicate (width - text.length) padding ++ text

/-- Fills a text up to a width with padding behind it. -/
def padRight (width : Nat) (padding : Char) (text : Text) : Text :=
  text ++ List.replicate (width - text.length) padding

/-- The stretch of a text from one position up to another. -/
def slice (text : Text) (start stop : Nat) : Text :=
  (text.take stop).drop start

/-- The text between two backticks, as messages quote it. -/
def ticked (text : Text) : Text :=
  "`".toList ++ text ++ "`".toList

/-! ### Letters `A` to `Z` -/

/-- The text with the letters `A` to `Z` made small; all other characters stay. -/
def lower (text : Text) : Text :=
  text.map Char.toLower

/-- Whether two texts differ at most in the case of the letters `A` to `Z`. -/
def sameIgnoringCase (s t : Text) : Bool :=
  lower s == lower t

/-! ### Whole numbers -/

/-- The value of a run of decimal digits. -/
def digitsValue (digits : Text) : Nat :=
  digits.foldl (fun n c => n * 10 + (c.toNat - '0'.toNat)) 0

/-- The decimal digits of a natural number. -/
def ofNat (n : Nat) : Text :=
  Nat.toDigits 10 n

/-- Reads a non-empty run of decimal digits. -/
def digits? (text : Text) : Option Nat :=
  if text ≠ [] ∧ text.all Char.isDigit then some (digitsValue text) else none

/-- Reads a natural number below `2 ^ 64`; a plus sign may stand before the digits. -/
def natural? (text : Text) : Option Nat :=
  (digits? (match text with | '+' :: rest => rest | _ => text)).filter fun n => Width.unsigned 64 n

/-- Reads an integer of 64 bits with an optional sign. -/
def integer? (text : Text) : Option Int :=
  let value : Option Int :=
    match text with
    | '-' :: rest => (digits? rest).map fun n => -(n : Int)
    | '+' :: rest => (digits? rest).map fun n => (n : Int)
    | _ => (digits? text).map fun n => (n : Int)
  value.filter (Width.signed 64)

end Text

end Stencil
