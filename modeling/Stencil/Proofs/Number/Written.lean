import Mathlib.Data.List.Basic
import Stencil.Proofs.Number.LeadingZero

/-!
# Reading what is written

A decimal is written as a run of digits, and behind a point another one for its places. It is read
back from these. With another mark in place of the point nothing is read, unless the mark could be
missing or could stand in front of an exponent.

## Main definitions

* `Decimal.Spells whole fraction n places`: the two runs of digits of a decimal

## Main results

* `Text.digitsValue_ofNat`: the digits of a natural number are read back
* `Decimal.exists_text`: a decimal is written as its two runs of digits
* `Decimal.Spells.ofText?_point`, `Decimal.Spells.ofText?_whole`: it is read back from them
* `Decimal.ofText?_mark`: it is not read with another mark between them
* `Number.ofText?_minusText_append`: a number is read as a decimal with its sign
-/

namespace Stencil

variable {digits whole fraction mark : Text} {n places : Nat}

/-! ## Runs of digits -/

namespace Text

/-- A text of digits. -/
def IsDigits (text : Text) : Prop := ∀ c ∈ text, c.isDigit = true

theorem isDigits_ofNat (n : Nat) : IsDigits (ofNat n) := fun _ mem =>
  Nat.isDigit_of_mem_toDigits (by omega) (by omega) mem

theorem isDigits_append {s t : Text} : IsDigits (s ++ t) ↔ IsDigits s ∧ IsDigits t := by
  simp only [IsDigits, List.mem_append, or_imp, forall_and]

theorem isDigits_padLeft (width : Nat) (run : IsDigits digits) :
    IsDigits (padLeft width '0' digits) := by
  refine isDigits_append.mpr ⟨fun c mem => ?_, run⟩
  rw [List.eq_of_mem_replicate mem]
  rfl

theorem digitsValue_concat (digits : Text) (c : Char) :
    digitsValue (digits ++ [c]) = digitsValue digits * 10 + (c.toNat - '0'.toNat) := by
  rw [digitsValue, List.foldl_append]
  rfl

theorem digitsValue_padLeft (width : Nat) (digits : Text) :
    digitsValue (padLeft width '0' digits) = digitsValue digits := by
  rw [padLeft]
  induction width - digits.length with
  | zero => rfl
  | succ missing ih => exact ih

theorem digitChar_value : ∀ n < 10, (Nat.digitChar n).toNat - '0'.toNat = n := by decide

/-- The digits of a natural number are read back. -/
theorem digitsValue_ofNat (n : Nat) : digitsValue (ofNat n) = n := by
  induction n using Nat.strongRecOn with
  | ind n ih =>
    rw [ofNat_eq_if]
    by_cases small : n < 10
    · rw [if_pos small, ← List.nil_append [n.digitChar], digitsValue_concat, digitChar_value n small]
      exact Nat.zero_add n
    · rw [if_neg small, digitsValue_concat, ih _ (by omega), digitChar_value _ (by omega)]
      omega

theorem takeWhile_isDigit_append (run : IsDigits digits) (rest : Text) :
    (digits ++ rest).takeWhile Char.isDigit = digits ++ rest.takeWhile Char.isDigit :=
  List.takeWhile_append_of_pos run

theorem dropWhile_isDigit_append (run : IsDigits digits) (rest : Text) :
    (digits ++ rest).dropWhile Char.isDigit = rest.dropWhile Char.isDigit :=
  List.dropWhile_append_of_pos run

end Text

namespace Decimal

/-! ## The two runs of digits of a decimal -/

/-- The digits in front of the point and those behind it. -/
structure Spells (whole fraction : Text) (n places : Nat) : Prop where
  whole_digits : Text.IsDigits whole
  fraction_digits : Text.IsDigits fraction
  whole_ne_nil : whole ≠ []
  length : fraction.length = places
  value : Text.digitsValue (whole ++ fraction) = n

/-- **A decimal is written** as its two runs of digits, with a point if it has places. -/
theorem exists_text (n places : Nat) :
    ∃ whole fraction, Spells whole fraction n places ∧
      text ⟨n, places⟩ = whole ++ (if fraction = [] then [] else '.' :: fraction) := by
  rcases Nat.eq_zero_or_pos places with rfl | pos
  · refine ⟨Text.ofNat n, [], ⟨Text.isDigits_ofNat n, by simp [Text.IsDigits], Text.ofNat_ne_nil n, rfl,
      ?_⟩, ?_⟩
    · rw [List.append_nil, Text.digitsValue_ofNat]
    · simp [text]
  · -- zeros fill the digits up, so that one of them stands in front of the point
    have digits := Text.isDigits_padLeft (places + 1) (Text.isDigits_ofNat n)
    have value := Text.digitsValue_padLeft (places + 1) (Text.ofNat n)
    have long : places + 1 ≤ (Text.padLeft (places + 1) '0' (Text.ofNat n)).length := by
      rw [Text.padLeft, List.length_append, List.length_replicate]
      omega
    have shape : text ⟨n, places⟩ =
        (Text.padLeft (places + 1) '0' (Text.ofNat n)).take
            ((Text.padLeft (places + 1) '0' (Text.ofNat n)).length - places) ++
          '.' :: (Text.padLeft (places + 1) '0' (Text.ofNat n)).drop
            ((Text.padLeft (places + 1) '0' (Text.ofNat n)).length - places) := by
      rw [text, if_neg (by simp only; omega)]
      rfl
    rw [Text.digitsValue_ofNat] at value
    rw [shape]
    generalize Text.padLeft (places + 1) '0' (Text.ofNat n) = padded at *
    have length : (padded.drop (padded.length - places)).length = places := by
      rw [List.length_drop]
      omega
    refine ⟨padded.take (padded.length - places), padded.drop (padded.length - places),
      ⟨fun c mem => digits c (List.mem_of_mem_take mem),
        fun c mem => digits c (List.mem_of_mem_drop mem), ?_, length, ?_⟩, ?_⟩
    · rw [Ne, List.take_eq_nil_iff, ← List.length_eq_zero_iff]
      omega
    · rw [List.take_append_drop, value]
    · rw [if_neg]
      rw [← List.length_eq_zero_iff]
      omega

/-! ## Reading them -/

/-- The exponent that may stand behind the digits. -/
def exponent? : Text → Option Int
  | [] => some 0
  | e :: rest =>
    if e = 'e' ∨ e = 'E' then
      match rest with
      | '-' :: rest => (Text.digits? rest).map fun n => -(n : Int)
      | '+' :: rest => (Text.digits? rest).map fun n => (n : Int)
      | _ => (Text.digits? rest).map fun n => (n : Int)
    else none

theorem ofText?_eq (digits : Text) :
    ofText? digits =
      let whole := digits.takeWhile Char.isDigit
      let rest := digits.dropWhile Char.isDigit
      let (fraction, rest) : Text × Text :=
        match rest with
        | '.' :: rest => (rest.takeWhile Char.isDigit, rest.dropWhile Char.isDigit)
        | _ => ([], rest)
      if whole ++ fraction = [] then none
      else (exponent? rest).map fun exponent =>
        ⟨Text.digitsValue (whole ++ fraction), fraction.length - exponent⟩ := rfl

/-- The marks that do not keep the places apart. Without a mark the digits run together, and behind
these letters the places are an exponent. -/
def ambiguousMarks : List Text := [[], "e", "E", ".e", ".E"]

/-- No exponent begins with a letter of another kind, or with a character that is neither a sign nor
a digit. -/
theorem exponent?_eq_none {c : Char} {rest : Text} (other : (c ≠ 'e' ∧ c ≠ 'E') ∨
    ∃ d tail, rest = d :: tail ∧ d.isDigit = false ∧ d ≠ '+' ∧ d ≠ '-') :
    exponent? (c :: rest) = none := by
  obtain ⟨notE, notE'⟩ | ⟨d, tail, rfl, noDigit, noPlus, noMinus⟩ := other
  · exact if_neg (by simp [notE, notE'])
  · have unread : Text.digits? (d :: tail) = none := if_neg (by simp [noDigit])
    rw [exponent?, unread]
    · split <;> rfl
    · rintro _ ⟨⟩
      exact noMinus rfl
    · rintro _ ⟨⟩
      exact noPlus rfl

section Reading

variable (run : Text.IsDigits whole) (ne : whole ≠ [])
include run ne

theorem ofText?_append_point (rest : Text) :
    ofText? (whole ++ '.' :: rest) = (exponent? (rest.dropWhile Char.isDigit)).map fun exponent =>
      ⟨Text.digitsValue (whole ++ rest.takeWhile Char.isDigit),
        (rest.takeWhile Char.isDigit).length - exponent⟩ := by
  have point : Char.isDigit '.' = false := rfl
  rw [ofText?_eq, Text.takeWhile_isDigit_append run, Text.dropWhile_isDigit_append run,
    List.takeWhile_cons_of_neg (by simp [point]), List.dropWhile_cons_of_neg (by simp [point]),
    List.append_nil]
  exact if_neg (by simp [ne])

theorem ofText?_append {rest : Text}
    (stops : ∀ c, rest.head? = some c → c.isDigit = false ∧ c ≠ '.') :
    ofText? (whole ++ rest) = (exponent? rest).map fun exponent =>
      ⟨Text.digitsValue whole, -exponent⟩ := by
  have none : rest.takeWhile Char.isDigit = [] ∧ rest.dropWhile Char.isDigit = rest := by
    cases rest with
    | nil => exact ⟨rfl, rfl⟩
    | cons c rest =>
      have noDigit := (stops c rfl).1
      exact ⟨List.takeWhile_cons_of_neg (by simp [noDigit]),
        List.dropWhile_cons_of_neg (by simp [noDigit])⟩
  rw [ofText?_eq, Text.takeWhile_isDigit_append run, Text.dropWhile_isDigit_append run, none.1,
    none.2, List.append_nil]
  simp only
  split
  · next rest => exact absurd rfl (stops '.' rfl).2
  · simp [ne]

/-- With another mark between its runs of digits nothing is read. -/
theorem ofText?_mark (other : mark ≠ ['.']) (clear : mark ∉ ambiguousMarks)
    (foreign : ∀ c ∈ mark, c.isDigit = false ∧ c ≠ '+' ∧ c ≠ '-') (rest : Text) :
    ofText? (whole ++ (mark ++ rest)) = none := by
  simp only [ambiguousMarks, List.mem_cons, List.not_mem_nil, or_false, not_or] at clear
  obtain ⟨notNone, notE, notE', notPointE, notPointE'⟩ := clear
  -- only a lone letter could start an exponent, since the rest of a mark holds no digit and no sign
  have exponent (c : Char) (tail : Text) (notE : c :: tail ≠ ['e']) (notE' : c :: tail ≠ ['E'])
      (foreign : ∀ d ∈ tail, d.isDigit = false ∧ d ≠ '+' ∧ d ≠ '-') :
      exponent? (c :: tail ++ rest) = none := by
    refine exponent?_eq_none ?_
    cases tail with
    | nil => exact .inl ⟨fun same => notE (by rw [same]), fun same => notE' (by rw [same])⟩
    | cons d tail => exact .inr ⟨d, tail ++ rest, rfl, foreign d List.mem_cons_self⟩
  obtain ⟨c, tail, rfl⟩ := List.exists_cons_of_ne_nil notNone
  by_cases point : c = '.'
  · subst point
    obtain ⟨d, tail, rfl⟩ := List.exists_cons_of_ne_nil (fun none => other (by rw [none]) : tail ≠ [])
    have noDigit := (foreign d (by simp)).1
    rw [List.cons_append, ofText?_append_point run ne, List.cons_append,
      List.dropWhile_cons_of_neg (by simp [noDigit])]
    rw [← List.cons_append, exponent d tail (fun same => notPointE (by rw [same]; rfl))
      (fun same => notPointE' (by rw [same]; rfl)) fun f mem => foreign f (by simp [mem]),
      Option.map_none]
  · rw [ofText?_append run ne, exponent c tail notE notE' fun d mem => foreign d (by simp [mem]),
      Option.map_none]
    rintro d ⟨⟩
    exact ⟨(foreign c (by simp)).1, point⟩

end Reading

namespace Spells

variable (spells : Spells whole fraction n places)
include spells

theorem ofText?_point : ofText? (whole ++ '.' :: fraction) = some ⟨n, places⟩ := by
  have take := Text.takeWhile_isDigit_append spells.fraction_digits []
  have drop := Text.dropWhile_isDigit_append spells.fraction_digits []
  simp only [List.append_nil, List.takeWhile_nil, List.dropWhile_nil] at take drop
  rw [ofText?_append_point spells.whole_digits spells.whole_ne_nil, take, drop, spells.value,
    spells.length]
  simp [exponent?]

theorem ofText?_whole (none : places = 0) : ofText? whole = some ⟨n, places⟩ := by
  obtain rfl : fraction = [] := List.length_eq_zero_iff.mp (spells.length.trans none)
  have value := spells.value
  rw [List.append_nil] at value
  rw [← List.append_nil whole, ofText?_append spells.whole_digits spells.whole_ne_nil (by simp), value,
    none]
  simp [exponent?]

end Spells

end Decimal

/-! ## Signs -/

namespace Number

/-- The sign in front of a number that is less than zero. -/
def minusText (negative : Bool) : Text := if negative then ['-'] else []

theorem toLower_of_isDigit {c : Char} (digit : c.isDigit = true) : c.toLower = c := by
  simp only [Char.isDigit, Bool.and_eq_true, decide_eq_true_eq, UInt32.le_iff_toNat_le] at digit
  refine dif_neg fun upper => ?_
  have above : 65 ≤ c.toNat := upper.1
  have below : c.toNat ≤ 57 := digit.2
  omega

/-- Behind an optional minus sign, a digit begins a decimal. -/
theorem ofText?_minusText_append {first : Char} (digit : first.isDigit = true) (negative : Bool)
    (rest : Text) : ofText? (minusText negative ++ first :: rest) =
      (Decimal.ofText? (first :: rest)).map (ofDecimal negative) := by
  have noWord (c : Char) (word : Text) (noDigit : c.isDigit = false) :
      Text.lower (first :: rest) ≠ c :: word := by
    rw [Text.lower, List.map_cons, toLower_of_isDigit digit]
    rintro ⟨⟩
    exact absurd digit (by simp [noDigit])
  have infinite : ¬ (Text.lower (first :: rest) = ("inf" : Text) ∨
      Text.lower (first :: rest) = ("infinity" : Text)) :=
    not_or.mpr ⟨noWord 'i' _ rfl, noWord 'i' _ rfl⟩
  have undefined : ¬ Text.lower (first :: rest) = ("nan" : Text) := noWord 'n' _ rfl
  have body (negative : Bool) :
      (if Text.lower (first :: rest) = ("inf" : Text) ∨
          Text.lower (first :: rest) = ("infinity" : Text) then some (infinity negative)
        else if Text.lower (first :: rest) = ("nan" : Text) then some (nan negative)
        else (Decimal.ofText? (first :: rest)).map (ofDecimal negative)) =
      (Decimal.ofText? (first :: rest)).map (ofDecimal negative) := by
    rw [if_neg infinite, if_neg undefined]
  cases negative with
  | true => exact body true
  | false =>
    rw [minusText, if_neg (by simp), List.nil_append, ofText?]
    · exact body false
    · rintro _ ⟨⟩
      contradiction
    · rintro _ ⟨⟩
      contradiction

end Number

end Stencil
