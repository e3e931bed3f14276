import Stencil.Directive.Basic
import Stencil.Proofs.Number.Scaled
import Stencil.Proofs.Number.Written
import Stencil.Proofs.Text.Occurrence
import Stencil.Proofs.Value.Name

/-!
# Numbers with separators

A number with a decimal point and separators of one's own choice is read by taking the thousands
separators out first and turning the decimal point into a point then. Digits belong to no separator,
so nothing is found across them, and the thousands separators that were put in come out again. But
they are taken out of the decimal point as well: if it has one of them within itself, then only its
rest stands in front of the places, and no decimal point is found any more.

## Main definitions

* `Text.IsSeparator`: what can stand between digits without being a part of a number
* `Number.localText`: a sign and two runs of digits with their separators
* `Number.pointMark`: what the decimal point has become when the number is read

## Main results

* `Number.ofLocalText?_of_point`: a number is read back, if it has no places or its decimal point is
  read as a point
* `Number.ofLocalText?_of_mark`: nothing is read with most other marks
* `Number.exists_grouped`: a rounded number is written with its two runs of digits
-/

namespace Stencil

variable {whole fraction point thousands : Text} {places : Nat} {negative : Bool}

/-! ## Separators -/

namespace Text

/-- A text that cannot be a part of a number: without digits, signs and blanks. -/
def IsSeparator (text : Text) : Prop :=
  ∀ c ∈ text, c.isDigit = false ∧ c ≠ '+' ∧ c ≠ '-' ∧ isBlank c = false

namespace IsSeparator

variable {separator digits : Text}

theorem notMem_of_isDigits (h : IsSeparator separator) (run : IsDigits digits) :
    ∀ c ∈ digits, c ∉ separator := fun c mem mem' => by
  have digit := run c mem
  rw [(h c mem').1] at digit
  contradiction

theorem notMem_minusText (h : IsSeparator separator) (negative : Bool) :
    ∀ c ∈ Number.minusText negative, c ∉ separator := by
  intro c mem mem'
  cases negative with
  | true => exact (h c mem').2.2.1 (List.mem_singleton.mp mem)
  | false => cases mem

end IsSeparator

end Text

namespace Number

/-! ## Digits in groups -/

theorem groupThousands_cons {digit : Char} {rest : Text} (more : rest ≠ []) :
    groupThousands thousands (digit :: rest) =
      digit :: ((if rest.length % 3 = 0 then thousands else []) ++ groupThousands thousands rest) := by
  rw [groupThousands]
  · split <;> rfl
  · exact more

theorem mem_groupThousands {c : Char} (mem : c ∈ groupThousands thousands whole) :
    c ∈ whole ∨ c ∈ thousands := by
  induction whole with
  | nil => cases mem
  | cons digit rest ih =>
    by_cases more : rest = []
    · rw [more] at mem ⊢
      exact .inl mem
    rw [groupThousands_cons more, List.mem_cons, List.mem_append] at mem
    obtain rfl | mem | mem := mem
    · exact .inl List.mem_cons_self
    · split at mem
      · exact .inr mem
      · cases mem
    · exact (ih mem).imp_left (List.mem_cons_of_mem digit)

/-- The separators between thousands are taken out again. -/
theorem replaceAll_groupThousands (run : Text.IsDigits whole)
    (separator : Text.IsSeparator thousands) (behind : Text) :
    Text.replaceAll thousands [] (groupThousands thousands whole ++ behind) =
      whole ++ Text.replaceAll thousands [] behind := by
  have skip (text : Text) : Text.replaceAll thousands [] (thousands ++ text) =
      Text.replaceAll thousands [] text := by
    by_cases none : thousands = []
    · rw [none, List.nil_append]
    · exact Text.replaceAll_pattern_append none
  have foreign := separator.notMem_of_isDigits run
  clear run
  -- a digit ends every occurrence in front of it, so only the separators put in are found
  induction whole with
  | nil => rfl
  | cons digit rest ih =>
    rw [List.forall_mem_cons] at foreign
    by_cases more : rest = []
    · rw [more]
      exact Text.replaceAll_cons foreign.1
    rw [groupThousands_cons more, List.cons_append, Text.replaceAll_cons foreign.1, List.append_assoc,
      List.cons_append]
    split
    · rw [skip, ih foreign.2]
    · rw [List.nil_append, ih foreign.2]

/-! ## What is left of the separators -/

/-- What stands for the decimal point once the separators between thousands are skipped and the
decimal point is read as a point. -/
def pointMark (point thousands : Text) : Text :=
  if Text.replaceAll thousands [] point = point then ['.'] else Text.replaceAll thousands [] point

/-- The text of a number with its two runs of digits. -/
def localText (point thousands : Text) (negative : Bool) (whole fraction : Text) : Text :=
  minusText negative ++ (groupThousands thousands whole ++
    (if fraction = [] then [] else point ++ fraction))

/-- What is left of a text when blanks and separators are skipped. -/
def plainText (point thousands text : Text) : Text :=
  let digits := text.filter fun c => !Text.isBlank c
  let digits := if thousands = [] then digits else Text.replaceAll thousands [] digits
  if point = [] ∨ point = ['.'] then digits else Text.replaceAll point "." digits

theorem ofLocalText?_eq (point thousands text : Text) :
    ofLocalText? point thousands text =
      (ofText? (plainText point thousands text)).filter isFinite := rfl

/-- The decimal point is read as a point, unless thousands separators were a part of it. -/
theorem replaceAll_point (hpoint : point ≠ []) :
    Text.replaceAll point "." (Text.replaceAll thousands [] point) = pointMark point thousands := by
  rw [pointMark]
  split
  · next same =>
    rw [same]
    have replaced : Text.replaceAll point ['.'] (point ++ []) = ['.'] ++ [] :=
      Text.replaceAll_pattern_append hpoint
    rw [List.append_nil] at replaced
    exact replaced
  · next less =>
    have rest := Text.replaceAll_nil_sublist thousands point
    refine Text.replaceAll_of_length_lt (Nat.lt_of_le_of_ne rest.length_le fun same => less ?_)
    exact rest.eq_of_length same

/-- A written number has no blanks. -/
theorem isBlank_of_mem_localText (run : Text.IsDigits whole) (run' : Text.IsDigits fraction)
    (separator : Text.IsSeparator point) (separator' : Text.IsSeparator thousands) {c : Char}
    (mem : c ∈ localText point thousands negative whole fraction) : Text.isBlank c = false := by
  have digit {c : Char} (digit : c.isDigit = true) : Text.isBlank c = false :=
    Text.isBlank_of_isAlphanum (by rw [Char.isAlphanum, digit, Bool.or_true])
  rw [localText, List.mem_append, List.mem_append] at mem
  obtain sign | grouped | behind := mem
  · cases negative with
    | true =>
      rw [List.mem_singleton.mp sign]
      rfl
    | false => cases sign
  · exact (mem_groupThousands grouped).elim (fun mem => digit (run c mem))
      fun mem => (separator' c mem).2.2.2
  · split at behind
    · cases behind
    · exact (List.mem_append.mp behind).elim (fun mem => (separator c mem).2.2.2)
        fun mem => digit (run' c mem)

/-- A written number is left with its sign, its digits and the mark between them. -/
theorem plainText_localText (run : Text.IsDigits whole) (run' : Text.IsDigits fraction)
    (hpoint : point ≠ []) (separator : Text.IsSeparator point)
    (separator' : Text.IsSeparator thousands) :
    plainText point thousands (localText point thousands negative whole fraction) =
      minusText negative ++ (whole ++
        (if fraction = [] then [] else pointMark point thousands ++ fraction)) := by
  have solid : (localText point thousands negative whole fraction).filter
      (fun c => !Text.isBlank c) = localText point thousands negative whole fraction :=
    List.filter_eq_self.mpr fun c mem => by
      rw [isBlank_of_mem_localText run run' separator separator' mem]
      rfl
  -- the separator between thousands is taken out, and from the point too if it holds it
  have skipped : (if thousands = [] then localText point thousands negative whole fraction
      else Text.replaceAll thousands [] (localText point thousands negative whole fraction)) =
      minusText negative ++ (whole ++
        (if fraction = [] then [] else Text.replaceAll thousands [] point ++ fraction)) := by
    have always (text : Text) : (if thousands = [] then text
        else Text.replaceAll thousands [] text) = Text.replaceAll thousands [] text := by
      split
      · next none => rw [none, Text.replaceAll_nil_pattern]
      · rfl
    rw [always, localText,
      Text.replaceAll_append_of_notMem_left (separator'.notMem_minusText negative),
      replaceAll_groupThousands run separator']
    split
    · rfl
    · rw [Text.replaceAll_append_of_notMem_right (separator'.notMem_of_isDigits run')]
  simp only [plainText, solid, skipped]
  by_cases usual : point = ['.']
  · have mark : Text.replaceAll thousands [] point = pointMark point thousands := by
      rw [pointMark]
      split
      · next same => exact same.trans usual
      · rfl
    rw [if_pos (.inr usual), mark]
  · rw [if_neg (not_or.mpr ⟨hpoint, usual⟩),
      Text.replaceAll_append_of_notMem_left (separator.notMem_minusText negative),
      Text.replaceAll_append_of_notMem_left (separator.notMem_of_isDigits run)]
    split
    · rfl
    · rw [Text.replaceAll_append_of_notMem_right (separator.notMem_of_isDigits run'),
        replaceAll_point hpoint]

/-! ## Written and read again -/

section Read

variable {n : Nat} (spells : Decimal.Spells whole fraction n places) (hpoint : point ≠ [])
  (separator : Text.IsSeparator point) (separator' : Text.IsSeparator thousands)
include spells hpoint separator separator'

/-- Behind its sign a number is read as a decimal. -/
theorem ofLocalText?_localText (negative : Bool) :
    ofLocalText? point thousands (localText point thousands negative whole fraction) =
      ((Decimal.ofText? (whole ++
        (if fraction = [] then [] else pointMark point thousands ++ fraction))).map
          (ofDecimal negative)).filter isFinite := by
  rw [ofLocalText?_eq, plainText_localText spells.whole_digits spells.fraction_digits hpoint separator
    separator']
  obtain ⟨first, rest, same⟩ := List.exists_cons_of_ne_nil spells.whole_ne_nil
  have digit := spells.whole_digits first (by rw [same]; exact List.mem_cons_self)
  rw [same, List.cons_append, ofText?_minusText_append digit]

/-- A number is read as its digits, if it has no places or the decimal point is read as a point. -/
theorem ofLocalText?_of_point (negative : Bool)
    (plain : places = 0 ∨ pointMark point thousands = ['.']) :
    ofLocalText? point thousands (localText point thousands negative whole fraction) =
      (some (ofDecimal negative ⟨n, places⟩)).filter isFinite := by
  rw [ofLocalText?_localText spells hpoint separator separator']
  suffices read : Decimal.ofText? (whole ++
      (if fraction = [] then [] else pointMark point thousands ++ fraction)) = some ⟨n, places⟩ by
    rw [read]
    rfl
  split
  · next none =>
    rw [List.append_nil]
    exact spells.ofText?_whole (by rw [← spells.length, none]; rfl)
  · next some =>
    have point := plain.resolve_left fun none =>
      some (List.length_eq_zero_iff.mp (spells.length.trans none))
    rw [point]
    exact spells.ofText?_point

/-- Nothing is read if something else stands for the decimal point. -/
theorem ofLocalText?_of_mark (negative : Bool) (some : places ≠ 0)
    (other : pointMark point thousands ≠ ['.'])
    (clear : pointMark point thousands ∉ Decimal.ambiguousMarks) :
    ofLocalText? point thousands (localText point thousands negative whole fraction) = none := by
  have foreign : ∀ c ∈ pointMark point thousands, c.isDigit = false ∧ c ≠ '+' ∧ c ≠ '-' := by
    intro c mem
    rw [pointMark] at mem
    split at mem
    · rw [List.mem_singleton.mp mem]
      decide
    · obtain ⟨noDigit, noPlus, noMinus, -⟩ :=
        separator c ((Text.replaceAll_nil_sublist thousands point).subset mem)
      exact ⟨noDigit, noPlus, noMinus⟩
  have behind : fraction ≠ [] := fun none => some (by rw [← spells.length, none]; rfl)
  rw [ofLocalText?_localText spells hpoint separator separator', if_neg behind,
    Decimal.ofText?_mark spells.whole_digits spells.whole_ne_nil other clear foreign]
  rfl

end Read

/-- A finite number has two runs of digits, which its sign does not change. -/
theorem exists_fixedText {magnitude : Nat} (finite : magnitude < infinityMagnitude) (places : Nat) :
    ∃ whole fraction,
      Decimal.Spells whole fraction (nearestEven (unitsAt magnitude * 10 ^ places) unitsPerOne)
        places ∧
      ∀ negative, fixedText places ⟨negative, magnitude⟩ =
        whole ++ (if fraction = [] then [] else '.' :: fraction) := by
  obtain ⟨whole, fraction, spells, text_eq⟩ := Decimal.exists_text
    (nearestEven (unitsAt magnitude * 10 ^ places) unitsPerOne) places
  refine ⟨whole, fraction, spells, fun negative => ?_⟩
  rw [fixedText, if_pos (isFinite_iff.mpr finite)]
  exact text_eq

/-- The digits of what a number is rounded to are written, with a sign if that is less than zero. -/
theorem grouped_eq_localText {x : Number} {magnitude wanted : Nat}
    (rounded : x.roundTo (min wanted maxPlaces) = ⟨negative, magnitude⟩)
    (finite : magnitude < infinityMagnitude) (run : Text.IsDigits whole)
    (digits : fixedText (min wanted maxPlaces) ⟨negative, magnitude⟩ =
      whole ++ (if fraction = [] then [] else '.' :: fraction)) (point thousands : Text) :
    x.grouped wanted point thousands =
      localText point thousands (negative && magnitude != 0) whole fraction := by
  have noPoint : ∀ c ∈ whole, (c != '.') = true := by
    intro c mem
    have digit := run c mem
    rw [bne_iff_ne]
    rintro rfl
    contradiction
  have sign : (if !isNaN ⟨negative, magnitude⟩ && place ⟨negative, magnitude⟩ < 0 then ['-']
      else []) = minusText (negative && magnitude != 0) := by
    rw [isNaN_of_isFinite (isFinite_iff.mpr finite), minusText, place]
    cases negative with
    | true => simp [Nat.pos_iff_ne_zero]
    | false => simp
  simp only [grouped, rounded]
  rw [digits, sign, localText, List.takeWhile_append_of_pos noPoint,
    List.dropWhile_append_of_pos noPoint, List.append_assoc]
  by_cases none : fraction = []
  · simp [none]
  · simp [none]

/-- A number is written by the two runs of digits of what it is rounded to. -/
theorem exists_grouped {magnitude : Nat} (finite : magnitude < infinityMagnitude) (wanted : Nat)
    (point thousands : Text) :
    ∃ whole fraction,
      Decimal.Spells whole fraction
        (nearestEven (unitsAt magnitude * 10 ^ min wanted maxPlaces) unitsPerOne)
        (min wanted maxPlaces) ∧
      ∀ (x : Number) (negative : Bool),
        x.roundTo (min wanted maxPlaces) = ⟨negative, magnitude⟩ →
        x.grouped wanted point thousands =
          localText point thousands (negative && magnitude != 0) whole fraction := by
  obtain ⟨whole, fraction, spells, digits⟩ := exists_fixedText finite (min wanted maxPlaces)
  exact ⟨whole, fraction, spells, fun x negative rounded =>
    grouped_eq_localText rounded finite spells.whole_digits (digits negative) point thousands⟩

end Number

end Stencil
