import Stencil.Proofs.Number.Written
import Stencil.Proofs.Value.Binding
import Stencil.Value.Supplied

/-!
# The keys of supplied values

A value that is supplied under a key replaces the one that is there. A value that is supplied by
position gets the number of the values before it as its key and is added at the end, also where this
number is a key already that some value was given by name. So a key belongs to one value alone as
long as no name runs ahead of the positions.

## Main definitions

* `Supply`: the ways to supply a value
* `Values.ofSupplies`: the supplied values
* `Values.FreshPositions`: no position is taken when a value is supplied there

## Main results

* `Values.mem_names_ofSupplies`: a key was given by name or is an earlier position
* `Values.nodup_names_ofSupplies_iff`: when each key belongs to one value alone
* `Values.keys_ofSupplies`: what is found under a position, and what a key replaces
-/

namespace Stencil

/-- A way to supply a value. -/
inductive Supply where
  /-- A value with a key. -/
  | named (key : Text) (value : Value)
  /-- A value without a key. -/
  | placed (value : Value)
  /-- A record with the name of its type; nothing is supplied if it has no content that can be
  written. -/
  | record (typeName : Text) (content : Option Value)

namespace Supply

/-- The value that is supplied by its position. -/
def placed? : Supply → Option Value
  | named _ _ => none
  | placed value => some value
  | record typeName content => content.map fun content => content.plain.typed typeName

/-- The key that is given by name. -/
def key? : Supply → Option Text
  | named key _ => some key
  | placed _ | record _ _ => none

/-- The values with one more. -/
def addTo (values : Values) : Supply → Values
  | named key value => Bindings.insert values key value
  | placed value => values.push value
  | record typeName content =>
    match content with
    | some content => values.push (content.plain.typed typeName)
    | none => values

end Supply

namespace Values

/-- The values that are supplied one after the other. -/
def ofSupplies (supplies : List Supply) : Values := supplies.foldl Supply.addTo []

/-- The key of the next value that is supplied by position. -/
def nextPosition (supplies : List Supply) : Text := Text.ofNat (ofSupplies supplies).length

/-- The keys that were given by name. -/
def givenKeys (supplies : List Supply) : List Text := supplies.filterMap Supply.key?

/-- No value is supplied by a position that was given as a key before. -/
def FreshPositions (supplies : List Supply) : Prop :=
  ∀ front supply back, supplies = front ++ supply :: back → supply.placed?.isSome = true →
    nextPosition front ∉ givenKeys front

end Values

/-! ## Positions as keys -/

/-- Different numbers are written differently. -/
theorem Text.ofNat_injective : Function.Injective ofNat := fun m n same => by
  rw [← digitsValue_ofNat m, ← digitsValue_ofNat n, same]

namespace Values

variable {supplies front back : List Supply} {supply : Supply} {key : Text} {value : Value}

theorem ofSupplies_concat (supplies : List Supply) (supply : Supply) :
    ofSupplies (supplies ++ [supply]) = supply.addTo (ofSupplies supplies) := by
  rw [ofSupplies, ofSupplies, List.foldl_append]
  rfl

theorem givenKeys_append (front back : List Supply) :
    givenKeys (front ++ back) = givenKeys front ++ givenKeys back := List.filterMap_append

theorem names_push (values : Values) (value : Value) :
    (values.push value).names = values.names ++ [Text.ofNat values.length] :=
  Bindings.names_append values _

/-- What one more supply does: it binds its key, adds a value at the next position, or supplies
nothing. -/
theorem addTo_cases (values : Values) (supply : Supply) :
    (∃ key value, supply = .named key value ∧
        supply.addTo values = Bindings.insert values key value) ∨
      (∃ value, supply.placed? = some value ∧ supply.key? = none ∧
        supply.addTo values = values.push value) ∨
      (supply.placed? = none ∧ supply.key? = none ∧ supply.addTo values = values) := by
  cases supply with
  | named key value => exact .inl ⟨key, value, rfl, rfl⟩
  | placed value => exact .inr (.inl ⟨value, rfl, rfl, rfl⟩)
  | record typeName content =>
    cases content with
    | none => exact .inr (.inr ⟨rfl, rfl, rfl⟩)
    | some content => exact .inr (.inl ⟨_, rfl, rfl, rfl⟩)

/-- One more supply leaves the keys as they are; a key of its own is added behind them. -/
theorem names_addTo (values : Values) (supply : Supply) :
    ∃ more, (supply.addTo values).names = values.names ++ more := by
  rcases addTo_cases values supply with
    ⟨name, value, -, added⟩ | ⟨value, -, -, added⟩ | ⟨-, -, added⟩
  · rw [added, Bindings.names_insert]
    split
    · exact ⟨[], (List.append_nil _).symm⟩
    · exact ⟨[name], rfl⟩
  · exact ⟨_, added ▸ names_push values value⟩
  · exact ⟨[], by rw [added, List.append_nil]⟩

/-- A key that is taken stays so. -/
theorem mem_names_addTo {values : Values} (h : key ∈ values.names) (supply : Supply) :
    key ∈ (supply.addTo values).names := by
  obtain ⟨more, names⟩ := names_addTo values supply
  exact names ▸ List.mem_append_left _ h

theorem length_le_addTo (values : Values) (supply : Supply) :
    values.length ≤ (supply.addTo values).length := by
  obtain ⟨more, names⟩ := names_addTo values supply
  have lengths := congrArg List.length names
  rw [Bindings.names, Bindings.names, List.length_append, List.length_map, List.length_map]
    at lengths
  omega

/-- **A key of the supplied values** was given by name, or it is a position that is past. -/
theorem mem_names_ofSupplies (h : key ∈ (ofSupplies supplies).names) :
    key ∈ givenKeys supplies ∨ ∃ n < (ofSupplies supplies).length, key = Text.ofNat n := by
  induction supplies using List.reverseRecOn with
  | nil => cases h
  | append_singleton supplies supply ih =>
    rw [ofSupplies_concat] at h ⊢
    rw [givenKeys_append, List.mem_append]
    have earlier (h : key ∈ (ofSupplies supplies).names) :
        (key ∈ givenKeys supplies ∨ key ∈ givenKeys [supply]) ∨
          ∃ n < (supply.addTo (ofSupplies supplies)).length, key = Text.ofNat n :=
      (ih h).imp .inl fun ⟨n, past, same⟩ =>
        ⟨n, Nat.lt_of_lt_of_le past (length_le_addTo _ supply), same⟩
    -- a value is added under its key, at the next position, or not at all
    rcases addTo_cases (ofSupplies supplies) supply with
      ⟨name, value, rfl, added⟩ | ⟨value, -, -, added⟩ | ⟨-, -, added⟩
    · rw [added, Bindings.names_insert] at h
      split at h
      · exact earlier h
      · rcases List.mem_append.mp h with h | h
        · exact earlier h
        · exact .inl (.inr h)
    · rw [added, names_push] at h
      rcases List.mem_append.mp h with h | h
      · exact earlier h
      · refine .inr ⟨(ofSupplies supplies).length, ?_, List.mem_singleton.mp h⟩
        rw [added, push, List.length_append]
        exact Nat.lt_succ_self _
    · rw [added] at h
      exact earlier h

/-- A key that was given by name is a key of the supplied values. -/
theorem mem_names_of_mem_givenKeys (h : key ∈ givenKeys supplies) :
    key ∈ (ofSupplies supplies).names := by
  induction supplies using List.reverseRecOn with
  | nil => cases h
  | append_singleton supplies supply ih =>
    rw [givenKeys_append, List.mem_append] at h
    rw [ofSupplies_concat]
    rcases h with earlier | here
    · exact mem_names_addTo (ih earlier) supply
    · cases supply with
      | named name value =>
        obtain rfl := List.mem_singleton.mp here
        rw [Supply.addTo, Bindings.names_insert]
        split
        · assumption
        · exact List.mem_append_right _ (List.mem_singleton_self _)
      | placed | record => cases here

/-- **The next position** is a key already exactly if it was given by name. -/
theorem nextPosition_mem_names_iff :
    nextPosition supplies ∈ (ofSupplies supplies).names ↔
      nextPosition supplies ∈ givenKeys supplies := by
  refine ⟨fun taken => (mem_names_ofSupplies taken).resolve_right ?_, mem_names_of_mem_givenKeys⟩
  rintro ⟨n, past, same⟩
  exact Nat.ne_of_gt past (Text.ofNat_injective same)

/-! ## One value for each key -/

theorem freshPositions_concat :
    FreshPositions (supplies ++ [supply]) ↔ FreshPositions supplies ∧
      (supply.placed?.isSome = true → nextPosition supplies ∉ givenKeys supplies) := by
  constructor
  · intro fresh
    refine ⟨fun front other back split => ?_, fresh supplies supply [] rfl⟩
    exact fresh front other (back ++ [supply]) (by rw [split, List.append_assoc, List.cons_append])
  · rintro ⟨before, here⟩ front other back split placed
    rcases List.eq_nil_or_concat back with rfl | ⟨back, last, rfl⟩
    · obtain ⟨rfl, same⟩ := List.append_inj' split rfl
      exact here (List.cons.inj same |>.1 ▸ placed)
    · rw [List.concat_eq_append, ← List.cons_append, ← List.append_assoc] at split
      exact before front other back (List.append_inj' split rfl).1 placed

/-- **Each key belongs to one value** exactly if no position was given as a key before. -/
theorem nodup_names_ofSupplies_iff :
    (ofSupplies supplies).names.Nodup ↔ FreshPositions supplies := by
  induction supplies using List.reverseRecOn with
  | nil =>
    refine iff_of_true List.nodup_nil fun front supply back split => ?_
    cases front <;> cases split
  | append_singleton supplies supply ih =>
    rw [ofSupplies_concat, freshPositions_concat, ← ih]
    rcases addTo_cases (ofSupplies supplies) supply with
      ⟨name, value, rfl, added⟩ | ⟨value, placed, -, added⟩ | ⟨placed, -, added⟩
    · rw [added, Bindings.names_insert]
      split
      · simp [Supply.placed?]
      · next fresh =>
        rw [← List.concat_eq_append, List.nodup_concat]
        simp [Supply.placed?, fresh]
    · rw [added, names_push, ← List.concat_eq_append, List.nodup_concat, and_comm, placed,
        ← nextPosition_mem_names_iff]
      exact and_congr_right fun _ => ⟨fun fresh _ => fresh, fun fresh => fresh rfl⟩
    · rw [added, placed]
      simp

/-! ## What is found under a position -/

/-- A value keeps its key until the key is given by name. -/
theorem get?_addTo {values : Values} (taken : key ∈ values.names)
    (unnamed : supply.key? ≠ some key) :
    (supply.addTo values).get? key = values.get? key := by
  rcases addTo_cases values supply with
    ⟨name, value, rfl, added⟩ | ⟨value, -, -, added⟩ | ⟨-, -, added⟩
  · rw [added, Bindings.get?_insert, if_neg fun same => unnamed (congrArg some same)]
  · obtain ⟨bound, found⟩ := Bindings.exists_get?_of_mem_names taken
    rw [added, push, Bindings.get?_append, found, Option.some_or]
  · rw [added]

theorem get?_ofSupplies_append (taken : key ∈ (ofSupplies front).names)
    (unnamed : key ∉ givenKeys back) :
    key ∈ (ofSupplies (front ++ back)).names ∧
      (ofSupplies (front ++ back)).get? key = (ofSupplies front).get? key := by
  induction back using List.reverseRecOn with
  | nil =>
    rw [List.append_nil]
    exact ⟨taken, rfl⟩
  | append_singleton back supply ih =>
    rw [givenKeys_append, List.mem_append, not_or] at unnamed
    obtain ⟨taken, same⟩ := ih unnamed.1
    rw [← List.append_assoc, ofSupplies_concat]
    refine ⟨mem_names_addTo taken supply, (get?_addTo taken fun named => unnamed.2 ?_).trans same⟩
    exact List.mem_filterMap.mpr ⟨supply, List.mem_singleton_self _, named⟩

/-- **What is found under a position** is the value that has it as a key, and only without one the
value that is supplied there. -/
theorem get?_ofSupplies_nextPosition (placed : supply.placed? = some value)
    (unnamed : nextPosition front ∉ givenKeys back) :
    (ofSupplies (front ++ supply :: back)).get? (nextPosition front) =
      ((ofSupplies front).get? (nextPosition front)).or (some value) := by
  have pushed : ofSupplies (front ++ [supply]) = (ofSupplies front).push value := by
    rw [ofSupplies_concat]
    rcases addTo_cases (ofSupplies front) supply with
      ⟨name, bound, rfl, -⟩ | ⟨bound, here, -, added⟩ | ⟨here, -, -⟩
    · cases placed
    · rw [added, Option.some.inj (here.symm.trans placed)]
    · cases here.symm.trans placed
  have taken : nextPosition front ∈ (ofSupplies (front ++ [supply])).names := by
    rw [pushed, names_push]
    exact List.mem_append_right _ (List.mem_singleton_self _)
  rw [List.append_cons, (get?_ofSupplies_append taken unnamed).2, pushed, push,
    Bindings.get?_append, ← nextPosition, Bindings.get?_cons, if_pos rfl]

/-- **The keys of supplied values.** Each key belongs to one value exactly if no value is supplied
by a position that was given as a key before. A value that is supplied by position is found there,
as long as the position is not given as a key later, exactly if it was not given as a key before, or
to the same value. Where each key belongs to one value, a value that is supplied under a key
replaces the only value with this key in its place. -/
theorem keys_ofSupplies (supplies : List Supply) :
    ((ofSupplies supplies).names.Nodup ↔ FreshPositions supplies) ∧
    (∀ front supply back value, supplies = front ++ supply :: back → supply.placed? = some value →
      nextPosition front ∉ givenKeys back →
        ((ofSupplies supplies).get? (nextPosition front) = some value ↔
          nextPosition front ∉ givenKeys front ∨
            (ofSupplies front).get? (nextPosition front) = some value)) ∧
    (FreshPositions supplies → ∀ (front back : Values) (key : Text) (old value : Value),
      ofSupplies supplies = front ++ (key, old) :: back →
        key ∉ front.names ∧ key ∉ back.names ∧
          ofSupplies (supplies ++ [.named key value]) = front ++ (key, value) :: back) := by
  refine ⟨nodup_names_ofSupplies_iff, ?_, ?_⟩
  · rintro front supply back value rfl placed unnamed
    rw [get?_ofSupplies_nextPosition placed unnamed, ← nextPosition_mem_names_iff]
    by_cases taken : nextPosition front ∈ (ofSupplies front).names
    · obtain ⟨bound, found⟩ := Bindings.exists_get?_of_mem_names taken
      simp [found, taken]
    · simp [Bindings.get?_eq_none taken, taken]
  · intro fresh front back key old value split
    have nodup := nodup_names_ofSupplies_iff.mpr fresh
    rw [split] at nodup
    obtain ⟨infront, behind⟩ := Bindings.notMem_names_of_nodup nodup
    refine ⟨infront, behind, ?_⟩
    rw [ofSupplies_concat, split]
    exact Bindings.insert_of_mem infront

/-- A name that is a number behind the positions; the record at the second position is found there,
and the key of the first position is given by name afterwards. -/
theorem keys_ofSupplies_of_record :
    let content : Value := .object none [("total".toList, .number (Number.infinity true))]
    let plain : Value := .object (some "Invoice".toList) [("total".toList, .null)]
    let supplies : List Supply :=
      [.placed (.text "a".toList), .record "Invoice".toList (some content),
        .named "0".toList (.text "b".toList), .named "2".toList (.bool true)]
    FreshPositions supplies ∧
      (ofSupplies supplies).get? "1".toList = some plain ∧
      ofSupplies (supplies ++ [.named "1".toList .null]) =
        [("0".toList, .text "b".toList), ("1".toList, .null), ("2".toList, .bool true)] := by
  intro content plain supplies
  obtain ⟨one, found, replaced⟩ := keys_ofSupplies supplies
  have fresh : FreshPositions supplies := one.mp (by decide)
  have record := found [.placed (.text "a".toList)] (.record "Invoice".toList (some content))
    [.named "0".toList (.text "b".toList), .named "2".toList (.bool true)] plain rfl rfl (by decide)
  exact ⟨fresh, record.mpr (.inl (by decide)),
    (replaced fresh [("0".toList, .text "b".toList)] [("2".toList, .bool true)] "1".toList plain
      .null rfl).2.2⟩

/-- **A position that was given as a key** belongs to two values: the one that is supplied there is
not found, and a value that is supplied under the key later replaces only the first of them. -/
theorem position_given_before :
    let supplies : List Supply :=
      [.named "1".toList (.text "a".toList), .placed (.text "b".toList)]
    (ofSupplies supplies).names = ["1".toList, "1".toList] ∧
      (ofSupplies supplies).get? "1".toList = some (.text "a".toList) ∧
      ofSupplies (supplies ++ [.named "1".toList (.text "c".toList)]) =
        [("1".toList, .text "c".toList), ("1".toList, .text "b".toList)] :=
  ⟨rfl, rfl, rfl⟩

end Values

end Stencil
