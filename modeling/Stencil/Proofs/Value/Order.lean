import Mathlib.Data.List.Pairwise
import Stencil.Proofs.Value.Binding
import Stencil.Proofs.Value.Supplied

/-!
# The order of supplied values

Where no two supplied values are stored under one name, each of them is found under its name
wherever it stands. A search without regard to letter case is for objects only, and these are stored
under names in lower case: it finds what an exact search for the name in lower case finds. So the
order in which values are supplied does not matter to any search.

## Main definitions

* `Scope.IsSupplied`: each name is bound once, and objects are bound to names in lower case
* `Values.Distinct`: no two supplied values are stored under one name

## Main results

* `Text.lower_lowerCase`: a text in lower case has no letters from `A` to `Z`
* `Scope.object?_ofValues`: a search without regard to letter case is an exact one
* `Scope.get?_ofValues_eq_some_iff`: each of distinct values is found under its name
* `Scope.lookup_ofValues_of_perm`: the order of distinct values does not matter
-/

namespace Stencil

/-! ## Texts in lower case -/

namespace Text

open Table

theorem isUpper_eq_decide (c : Char) : c.isUpper = decide (65 ≤ c.toNat ∧ c.toNat ≤ 90) := rfl

/-- A character that is no letter from `A` to `Z`, by its code. -/
theorem not_isUpper_of_lt {c : Char} (h : 90 < c.toNat ∨ c.toNat < 65) : c.isUpper = false := by
  rw [isUpper_eq_decide, decide_eq_false_iff_not]
  omega

/-- Only the letters from `A` to `Z` are made small. -/
theorem toLower_of_not_isUpper {c : Char} (h : c.isUpper = false) : c.toLower = c := by
  rw [isUpper_eq_decide, decide_eq_false_iff_not] at h
  exact dif_neg h

theorem not_isUpper_toLower (c : Char) : c.toLower.isUpper = false := by
  by_cases upper : c.isUpper = true
  · have small : ∀ n < 91, (Char.ofNat n).toLower.isUpper = false := by decide
    have codes : 65 ≤ c.toNat ∧ c.toNat ≤ 90 := of_decide_eq_true upper
    rw [← Char.ofNat_toNat c]
    exact small c.toNat (by omega)
  · rw [Bool.not_eq_true] at upper
    rwa [toLower_of_not_isUpper upper]

/-- The character of a code beyond the letters from `A` to `Z`, or of no code. -/
theorem not_isUpper_ofNat {n : Nat} (h : 90 < n) : (Char.ofNat n).isUpper = false := by
  apply not_isUpper_of_lt
  by_cases valid : n.isValidChar
  · have code : Char.ofNat n = Char.ofNatAux n valid := dif_pos valid
    rw [code]
    exact .inl h
  · have none : Char.ofNat n = ⟨0, by decide⟩ := dif_neg valid
    rw [none]
    exact .inr (by decide)

/-- No run of the table leads to a letter from `A` to `Z`. -/
theorem lt_of_findRun?_lowerRuns {n m : Nat} (h : findRun? lowerRuns n = some m) : 90 < m := by
  have beyond : lowerRuns.toList.all (fun run => decide (90 < (run.first : Int) + run.shift)) =
      true := by decide +kernel
  obtain ⟨run, found, rfl⟩ := Option.map_eq_some_iff.mp h
  have mem := Array.mem_toList_iff.mpr (Array.mem_of_find?_eq_some found)
  have start := List.all_eq_true.mp beyond run mem
  have holds := Array.find?_some found
  simp only [Bool.and_eq_true, decide_eq_true_eq] at start holds
  omega

/-- The lower case form of a character holds no letter from `A` to `Z`. -/
theorem not_isUpper_of_mem_lowerForm {c d : Char} (h : d ∈ lowerForm c) : d.isUpper = false := by
  rw [lowerForm] at h
  split at h
  · rw [List.mem_singleton.mp h]
    exact not_isUpper_toLower c
  · next large =>
    rw [caseForm] at h
    split at h
    · next n form found =>
      have beyond : lowerLong.toList.all (fun entry => entry.2.all fun m => decide (90 < m)) =
          true := by decide +kernel
      obtain ⟨m, mem, rfl⟩ := List.mem_map.mp h
      have listed := Array.mem_toList_iff.mpr (Array.mem_of_find?_eq_some found)
      have entry := List.all_eq_true.mp beyond _ listed
      exact not_isUpper_ofNat (of_decide_eq_true (List.all_eq_true.mp entry m mem))
    · split at h
      · next n found =>
        rw [List.mem_singleton.mp h]
        exact not_isUpper_ofNat (lt_of_findRun?_lowerRuns found)
      · rw [List.mem_singleton.mp h]
        exact not_isUpper_of_lt (by omega)

theorem not_isUpper_of_mem_lowerCaseFrom {behind text : Text} {c : Char}
    (h : c ∈ lowerCaseFrom behind text) : c.isUpper = false := by
  induction text generalizing behind with
  | nil => cases h
  | cons d rest ih =>
    rcases List.mem_append.mp h with form | later
    · split at form
      · split at form <;> rw [List.mem_singleton.mp form] <;> decide
      · exact not_isUpper_of_mem_lowerForm form
    · exact ih later

/-- **A text in lower case** has no letters from `A` to `Z`. -/
theorem lower_lowerCase (text : Text) : lower (lowerCase text) = lowerCase text := by
  refine (List.map_congr_left fun c mem => ?_).trans (List.map_id _)
  exact toLower_of_not_isUpper (not_isUpper_of_mem_lowerCaseFrom mem)

theorem lower_lower (text : Text) : lower (lower text) = lower text := by
  refine (List.map_congr_left fun c mem => ?_).trans (List.map_id _)
  obtain ⟨d, -, rfl⟩ := List.mem_map.mp mem
  exact toLower_of_not_isUpper (not_isUpper_toLower d)

end Text

/-! ## Searches without regard to letter case -/

namespace Scope

/-- Each name is bound once, and objects are bound to names in lower case. -/
structure IsSupplied (scope : Scope) : Prop where
  nodup : scope.names.Nodup
  small : ∀ key value, (key, value) ∈ scope → value.isObject = true → Text.lower key = key

/-- An object is stored under a name in lower case. -/
theorem lower_of_keyOf? {key name : Text} {value : Value} (stored : keyOf? key value = some name)
    (object : value.isObject = true) : Text.lower name = name := by
  cases value with
  | object typeName fields =>
    rw [keyOf?] at stored
    split at stored
    · obtain ⟨type, -, rfl⟩ := Option.map_eq_some_iff.mp stored
      exact Text.lower_lowerCase type
    · cases stored
      exact Text.lower_lowerCase key
  | _ => cases object

theorem isSupplied_ofValues (values : Values) : (ofValues values).IsSupplied := by
  induction values using List.reverseRecOn with
  | nil => exact ⟨List.nodup_nil, fun key value mem => absurd mem List.not_mem_nil⟩
  | append_singleton values entry ih =>
    rw [ofValues_concat]
    cases stored : keyOf? entry.1 entry.2 with
    | none => exact ih
    | some name =>
      refine ⟨Bindings.nodup_names_insert ih.nodup, fun key value mem object => ?_⟩
      rcases Bindings.mem_insert mem with mem | ⟨rfl, rfl⟩
      · exact ih.small key value mem object
      · exact lower_of_keyOf? stored object

theorem object?_cons (key name : Text) (value : Value) (rest : Scope) :
    object? ((key, value) :: rest) name =
      if value.isObject && Text.sameIgnoringCase key name then some value
      else object? rest name := by
  rw [object?, List.find?_cons]
  simp only
  split
  · next found => rw [if_pos found, Option.map_some]
  · next passed =>
    rw [if_neg (by simp [passed])]
    rfl

/-- **A search without regard to letter case** finds the object that is bound to the name in lower
case. -/
theorem IsSupplied.object?_eq {scope : Scope} (h : scope.IsSupplied) (name : Text) :
    scope.object? name = (Bindings.get? scope (Text.lower name)).filter Value.isObject := by
  induction scope with
  | nil => rfl
  | cons first rest ih =>
    obtain ⟨key, value⟩ := first
    obtain ⟨fresh, nodup⟩ := List.nodup_cons.mp h.nodup
    have small := h.small key value (List.mem_cons_self ..)
    have ih := ih ⟨nodup, fun key value mem => h.small key value (List.mem_cons_of_mem _ mem)⟩
    rw [object?_cons, Bindings.get?_cons, ih]
    by_cases here : key = Text.lower name
    · -- no other value has this name, so a scalar or a list hides nothing
      rw [here] at fresh
      rw [here, Text.sameIgnoringCase, Text.lower_lower, beq_self_eq_true, Bool.and_true,
        if_pos rfl, Bindings.get?_eq_none fresh, Option.filter_some, Option.filter_none]
    · -- an object with another name differs from the name in more than letter case
      have passed : (value.isObject && Text.sameIgnoringCase key name) = false := by
        rw [Bool.and_eq_false_imp, Text.sameIgnoringCase, beq_eq_false_iff_ne]
        intro object
        rwa [small object]
      rw [passed, if_neg here, if_neg Bool.false_ne_true]

theorem object?_ofValues (values : Values) (name : Text) :
    (ofValues values).object? name =
      ((ofValues values).get? (Text.lower name)).filter Value.isObject :=
  (isSupplied_ofValues values).object?_eq name

/-! ## Values in any order -/

end Scope

/-- The names under which values are stored. -/
def Values.stored (values : Values) : List Text :=
  values.filterMap fun entry => Scope.keyOf? entry.1 entry.2

/-- No two values are stored under one name. -/
def Values.Distinct (values : Values) : Prop := values.stored.Nodup

instance (values : Values) : Decidable values.Distinct :=
  inferInstanceAs (Decidable (List.Nodup _))

/-- An entry is known by the name under which it is stored. -/
theorem Values.Distinct.eq_of_stored {values : Values} (h : values.Distinct)
    {one other : Text × Value} {name : Text} (mem : one ∈ values) (mem' : other ∈ values)
    (stored : Scope.keyOf? one.1 one.2 = some name)
    (stored' : Scope.keyOf? other.1 other.2 = some name) : one = other := by
  have apart := List.pairwise_filterMap.mp h
  have : Std.Symm fun one other : Text × Value =>
      ∀ b, Scope.keyOf? one.1 one.2 = some b → ∀ b', Scope.keyOf? other.1 other.2 = some b' →
        b ≠ b' := ⟨fun _ _ differ b hb b' hb' => (differ b' hb' b hb).symm⟩
  by_contra different
  exact apart.forall mem mem' different name stored name stored' rfl

namespace Scope

variable {values others : Values} {name : Text} {value : Value}

/-- **Each of distinct values** is found under the name under which it is stored. -/
theorem get?_ofValues_eq_some_iff (distinct : values.Distinct) :
    (ofValues values).get? name = some value ↔
      ∃ entry ∈ values, keyOf? entry.1 entry.2 = some name ∧ entry.2 = value := by
  have stored_iff {entry : Text × Value} {value : Value} : storedUnder? name entry = some value ↔
      keyOf? entry.1 entry.2 = some name ∧ entry.2 = value := by
    rw [storedUnder?, Option.ite_none_right_eq_some, Option.some.injEq]
  simp only [get?_ofValues, ← stored_iff]
  constructor
  · intro found
    obtain ⟨entry, mem, stored⟩ := List.exists_of_findSome?_eq_some found
    exact ⟨entry, List.mem_reverse.mp mem, stored⟩
  · rintro ⟨entry, mem, stored⟩
    obtain ⟨bound, found⟩ := Option.isSome_iff_exists.mp (List.findSome?_isSome_iff.mpr
      ⟨entry, List.mem_reverse.mpr mem, Option.isSome_of_eq_some stored⟩)
    -- whatever the search finds is stored under the same name, so it is the same entry
    obtain ⟨other, mem', stored'⟩ := List.exists_of_findSome?_eq_some found
    obtain rfl := distinct.eq_of_stored mem (List.mem_reverse.mp mem')
      (stored_iff.mp stored).1 (stored_iff.mp stored').1
    rw [found, ← stored', stored]

/-- **The order of distinct values** does not matter to any search. -/
theorem lookup_ofValues_of_perm (perm : values.Perm others) (distinct : values.Distinct) :
    (ofValues values).lookup = (ofValues others).lookup := by
  have distinct' : others.Distinct := (perm.filterMap _).nodup_iff.mp distinct
  have exact (name : Text) : (ofValues values).get? name = (ofValues others).get? name := by
    apply Option.ext
    intro value
    rw [get?_ofValues_eq_some_iff distinct, get?_ofValues_eq_some_iff distinct']
    simp only [perm.mem_iff]
  rw [lookup, lookup, Lookup.mk.injEq]
  refine ⟨funext exact, funext fun name => ?_⟩
  rw [object?_ofValues, object?_ofValues, exact]

end Scope

end Stencil
