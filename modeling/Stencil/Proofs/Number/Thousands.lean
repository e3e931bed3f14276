import Stencil.Proofs.Number.Grouped
import Stencil.Proofs.Number.Settled

/-!
# Groups of thousands

The separators between thousands are put in from the left, and each is placed by counting the digits
behind it. So the digits fall into groups of three, and the first group has what is left over. The
places and the sign come from the number that was rounded. It is the one nearest to a whole count of
last places, and this count can be read off it again. So the digits are all zero for zero only, and
the number is never written as a zero with a minus sign.

## Main definitions

* `Text.IsGrouping`: groups of three, with one to three digits in the first of them

## Main results

* `Text.IsGrouping.unique`: a text has one grouping
* `Number.exists_groups`: the separators between thousands stand between such groups
* `Number.reread_roundTo`: a rounded number is read back from its count of last places
* `Number.grouped_eq_groups`: sign, groups and places of a written number
-/

namespace Stencil

variable {digits whole fraction : Text} {x : Number} {places n : Nat}

namespace Text

/-! ## Groups -/

/-- Groups as they stand between separators of thousands: one to three characters in the first, and
three in each other one. -/
def IsGrouping : List Text → Prop
  | [] => False
  | first :: others => 0 < first.length ∧ first.length ≤ 3 ∧ ∀ group ∈ others, group.length = 3

section Full

variable {groups others : List Text} (full : ∀ group ∈ groups, group.length = 3)
include full

theorem length_flatten_of_full : groups.flatten.length = groups.length * 3 := by
  rw [List.length_flatten, List.map_eq_replicate_iff.mpr full, List.sum_replicate_nat]

/-- Full groups are determined by what they hold together. -/
theorem eq_of_flatten_eq_of_full (full' : ∀ group ∈ others, group.length = 3)
    (same : groups.flatten = others.flatten) : groups = others := by
  have count : groups.length = others.length := by
    have lengths := congrArg List.length same
    rw [length_flatten_of_full full, length_flatten_of_full full'] at lengths
    omega
  refine List.eq_iff_flatten_eq.mpr ⟨same, ?_⟩
  rw [List.map_eq_replicate_iff.mpr full, List.map_eq_replicate_iff.mpr full', count]

end Full

/-- **A text has one grouping**: its length says how much of it comes before the full groups. -/
theorem IsGrouping.unique {groups groups' : List Text} (h : IsGrouping groups)
    (h' : IsGrouping groups') (same : groups.flatten = groups'.flatten) : groups = groups' := by
  cases groups with
  | nil => exact h.elim
  | cons first others =>
    cases groups' with
    | nil => exact h'.elim
    | cons first' others' =>
      obtain ⟨pos, most, full⟩ := h
      obtain ⟨pos', most', full'⟩ := h'
      rw [List.flatten_cons, List.flatten_cons] at same
      have length : first.length = first'.length := by
        have lengths := congrArg List.length same
        rw [List.length_append, List.length_append, length_flatten_of_full full,
          length_flatten_of_full full'] at lengths
        omega
      obtain ⟨rfl, behind⟩ := List.append_inj same length
      rw [eq_of_flatten_eq_of_full full full' behind]

/-- Digits that stand for zero are all zero. -/
theorem digitsValue_eq_zero_iff (run : IsDigits digits) :
    digitsValue digits = 0 ↔ ∀ c ∈ digits, c = '0' := by
  induction digits using List.reverseRecOn with
  | nil => simp [digitsValue]
  | append_singleton digits c ih =>
    obtain ⟨run, last⟩ := isDigits_append.mp run
    have zero : c.toNat - '0'.toNat = 0 ↔ c = '0' := by
      have digit := last c (List.mem_singleton_self c)
      simp only [Char.isDigit, Bool.and_eq_true, decide_eq_true_eq, UInt32.le_iff_toNat_le] at digit
      refine ⟨fun none => Char.toNat_inj.mp ?_, fun same => by rw [same]; rfl⟩
      have low : '0'.toNat ≤ c.toNat := digit.1
      omega
    rw [digitsValue_concat, Nat.add_eq_zero_iff, Nat.mul_eq_zero, or_iff_left (by decide), ih run,
      zero, List.forall_mem_append, List.forall_mem_singleton]

end Text

namespace Number

/-- **The separators between thousands** stand between groups, whatever they are. -/
theorem exists_groups (ne : whole ≠ []) :
    ∃ groups, Text.IsGrouping groups ∧ groups.flatten = whole ∧
      ∀ thousands, groupThousands thousands whole = Text.join thousands groups := by
  induction whole with
  | nil => exact absurd rfl ne
  | cons digit rest ih =>
    by_cases more : rest = []
    · subst more
      exact ⟨[[digit]], ⟨by simp, by simp, by simp⟩, rfl, fun _ => rfl⟩
    obtain ⟨groups, grouping, rfl, joined⟩ := ih more
    cases groups with
    | nil => exact grouping.elim
    | cons first others =>
      obtain ⟨pos, most, all⟩ := grouping
      have length : (first :: others).flatten.length % 3 = first.length % 3 := by
        rw [List.flatten_cons, List.length_append, Text.length_flatten_of_full all]
        omega
      by_cases full : first.length = 3
      · -- a full group is left alone, and the digit opens one in front of it
        refine ⟨[digit] :: first :: others, ⟨by simp, by simp, ?_⟩, rfl, fun thousands => ?_⟩
        · exact List.forall_mem_cons.mpr ⟨full, all⟩
        · rw [groupThousands_cons more, if_pos (by rw [length, full]), joined, Text.join, Text.join,
            List.intercalate_cons_cons, List.append_assoc]
          rfl
      · -- a shorter one takes the digit in
        refine ⟨(digit :: first) :: others, ⟨by simp, ?_, all⟩, rfl, fun thousands => ?_⟩
        · rw [List.length_cons]
          omega
        · rw [groupThousands_cons more, if_neg (by omega), joined, List.nil_append, Text.join,
            Text.join]
          cases others with
          | nil => rw [List.intercalate_singleton, List.intercalate_singleton]
          | cons second others =>
            rw [List.intercalate_cons_cons, List.intercalate_cons_cons, List.append_assoc,
              List.append_assoc, List.cons_append]

/-! ## Places and sign -/

/-- **A rounded number is read back** from its count of last places, also where a second rounding
would change it. -/
theorem reread_roundTo (few : places ≤ 20) (finite : x.isFinite = true) :
    (x.roundTo places).magnitude < infinityMagnitude ∧
      ∀ negative, ofDecimal negative
        ⟨nearestEven (unitsAt (x.roundTo places).magnitude * 10 ^ places) unitsPerOne, places⟩ =
        ⟨negative, (x.roundTo places).magnitude⟩ := by
  obtain ⟨m, nearest, ⟨large, same⟩ | ⟨small, counted, r, finite', nearest', same⟩⟩ :=
    roundTo_cases few finite
  · rw [same]
    have settled := settled_of_large few (isFinite_iff.mp finite) nearest large
    exact ⟨settled.finite, settled.reread⟩
  · rw [same]
    exact ⟨finite', fun negative =>
      ofDecimal_eq_of_nearest few negative (nearest_reread few nearest') finite'⟩

/-- The digits of a rounded number are all zero for zero only. -/
theorem digits_zero_iff (few : places ≤ 20) (finite : x.isFinite = true)
    (spells : Decimal.Spells whole fraction
      (nearestEven (unitsAt (x.roundTo places).magnitude * 10 ^ places) unitsPerOne) places) :
    (∀ c ∈ whole ++ fraction, c = '0') ↔ (x.roundTo places).isZero = true := by
  rw [← Text.digitsValue_eq_zero_iff
    (Text.isDigits_append.mpr ⟨spells.whole_digits, spells.fraction_digits⟩), spells.value, isZero,
    beq_iff_eq]
  constructor
  · intro none
    have reread := (reread_roundTo few finite).2 false
    rw [none] at reread
    exact (congrArg magnitude reread).symm
  · intro zero
    have units : unitsAt 0 * 10 ^ places = 0 * unitsPerOne := by
      rw [Nat.zero_mul]
      exact Nat.zero_mul _
    rw [zero, units, nearestEven_mul 0 unitsPerOne_pos]

/-- A finite number is below zero if it has a sign and is not zero. -/
theorem compare?_zero_iff (finite : x.isFinite = true) :
    x.compare? zero = some .lt ↔ (x.negative && x.magnitude != 0) = true := by
  have place_zero : zero.place = 0 := rfl
  have notNaN : zero.isNaN = false := by decide
  rw [compare?, isNaN_of_isFinite finite, notNaN, if_neg (by simp), Option.some_inj,
    compare_lt_iff_lt, place_zero, place, Bool.and_eq_true, bne_iff_ne]
  cases x.negative with
  | true => simp [Nat.pos_iff_ne_zero]
  | false => simp

/-- **A finite number is written** as a minus sign if it is rounded to a number below zero, the
digits in front of the point in groups of three, and the decimal point with the places if there are
any. Without separators these are the digits of the rounded number, and they are all zero only if it
is zero. -/
theorem grouped_eq_groups (x : Number) (finite : x.isFinite = true) (wanted : Nat)
    (point thousands : Text) :
    ∃ (negative : Bool) (groups : List Text) (fraction : Text),
      x.grouped wanted point thousands = minusText negative ++ (Text.join thousands groups ++
        (if min wanted maxPlaces = 0 then [] else point ++ fraction)) ∧
      Text.IsGrouping groups ∧ (∀ group ∈ groups, Text.IsDigits group) ∧
      Text.IsDigits fraction ∧ fraction.length = min wanted maxPlaces ∧
      groups.flatten ++ (if min wanted maxPlaces = 0 then [] else '.' :: fraction) =
        (x.roundTo (min wanted maxPlaces)).abs.fixedText (min wanted maxPlaces) ∧
      (negative = true ↔ (x.roundTo (min wanted maxPlaces)).compare? zero = some .lt) ∧
      ((∀ c ∈ groups.flatten ++ fraction, c = '0') ↔
        (x.roundTo (min wanted maxPlaces)).isZero = true) ∧
      (negative = true → ∃ c ∈ groups.flatten ++ fraction, c ≠ '0') := by
  have few : min wanted maxPlaces ≤ 20 := Nat.min_le_right _ _
  have finite' := (reread_roundTo few finite).1
  obtain ⟨whole, fraction, spells, digits⟩ := exists_fixedText finite' (min wanted maxPlaces)
  have written := grouped_eq_localText rfl finite' spells.whole_digits
    (digits (x.roundTo (min wanted maxPlaces)).negative) point thousands
  have zeros := digits_zero_iff few finite spells
  have sign := compare?_zero_iff (isFinite_iff.mpr finite')
  obtain ⟨groups, grouping, rfl, joined⟩ := exists_groups spells.whole_ne_nil
  have places : fraction = [] ↔ min wanted maxPlaces = 0 := by
    rw [← spells.length, List.length_eq_zero_iff]
  simp only [localText, joined, places] at written digits
  refine ⟨_, groups, fraction, written, grouping, fun group mem c mem' => ?_,
    spells.fraction_digits, spells.length, (digits false).symm, sign.symm, zeros, fun below => ?_⟩
  · exact spells.whole_digits c (List.mem_flatten_of_mem mem mem')
  · by_contra none
    push Not at none
    have zero := zeros.mp none
    rw [Bool.and_eq_true, bne_iff_ne] at below
    exact below.2 (beq_iff_eq.mp zero)

/-- A number with three groups and more places than are written. -/
theorem grouped_eq_groups_of_negative :
    let x := ofDecimal true ⟨12345678915, 4⟩
    x.isFinite = true ∧ (x.roundTo 3).compare? zero = some .lt ∧
      Text.IsGrouping ["1", "234", "567"] ∧
      x.grouped 3 "," "." =
        minusText true ++ (Text.join "." ["1", "234", "567"] ++ (("," : Text) ++ "892")) ∧
      x.grouped 3 "," "." = "-1.234.567,892" := by
  intro x
  have finite : x.isFinite = true := by decide +kernel
  have below : (x.roundTo 3).compare? zero = some .lt := by decide +kernel
  have rounded : (x.roundTo 3).abs.fixedText 3 = "1234567" ++ (".892" : Text) := by decide +kernel
  have grouping : Text.IsGrouping ["1", "234", "567"] := ⟨by decide, by decide, by decide⟩
  obtain ⟨negative, groups, fraction, written, grouping', -, -, length, digits, sign, -⟩ :=
    grouped_eq_groups x finite 3 "," "."
  obtain rfl : negative = true := sign.mpr below
  rw [if_neg (by decide)] at digits written
  obtain ⟨front, behind⟩ := List.append_inj' (digits.trans rounded) (congrArg (· + 1) length)
  obtain rfl : groups = ["1", "234", "567"] := grouping'.unique grouping front
  obtain rfl : fraction = "892" := (List.cons.inj behind).2
  exact ⟨finite, below, grouping, written, written⟩

end Number

end Stencil
