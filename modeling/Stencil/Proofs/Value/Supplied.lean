import Stencil.Proofs.Value.Name
import Stencil.Proofs.Value.Shadowing

/-!
# Supplied values under their names

Supplied values are bound one after the other, so a name stands for the last value that is stored
under it. A scalar or a list is stored under its key. An object is stored under its key in lower
case and under nothing else: a key that is not written in lower case names no object, neither for a
condition nor for a loop nor for a pipeline.

## Main results

* `Scope.get?_ofValues`: a name stands for the last value that is stored under it
* `Scope.keyOf?_of_isIdentifier`: where a value with a name for its key is stored
* `Scope.resolve?_own_name`: which supplied values are found under their own names
-/

namespace Stencil

/-! ## Names are no positions -/

/-- Letters are no digits from `0` to `9`. -/
theorem Text.isDigit_of_isAlphabetic {c : Char} (h : isAlphabetic c = true) :
    c.isDigit = false := by
  rw [Bool.eq_false_iff]
  intro digit
  have codes : 48 ≤ c.toNat ∧ c.toNat ≤ 57 :=
    (Bool.and_eq_true_iff.mp digit).imp of_decide_eq_true of_decide_eq_true
  rw [isAlphabetic, if_pos (by omega)] at h
  rcases Bool.or_eq_true_iff.mp h with upper | lower
  · have letters : 65 ≤ c.toNat ∧ c.toNat ≤ 90 := of_decide_eq_true upper
    omega
  · have letters : 97 ≤ c.toNat ∧ c.toNat ≤ 122 :=
      (Bool.and_eq_true_iff.mp lower).imp of_decide_eq_true of_decide_eq_true
    omega

namespace Path

variable {name : Text} (h : isIdentifier name = true)
include h

/-- A name does not start with a digit, so it is no position. -/
theorem isPosition_of_isIdentifier : Scope.isPosition name = false := by
  cases name with
  | nil => cases h
  | cons c rest =>
    rw [isIdentifier, Bool.and_eq_true, Bool.or_eq_true] at h
    have start : c.isDigit = false := by
      rcases h.1 with letter | underscore
      · exact Text.isDigit_of_isAlphabetic letter
      · rw [eq_of_beq underscore]
        rfl
    simp [Scope.isPosition, start]

/-- **A name alone** is looked up as it is written. -/
theorem resolve?_of_isIdentifier (lookup : Lookup) : resolve? lookup name = lookup.get? name := by
  rw [resolve?, segments_of_isIdentifier h]
  cases lookup.get? name <;> rfl

end Path

/-! ## What a name stands for -/

namespace Scope

/-- The value of an entry that is stored under a name. -/
def storedUnder? (name : Text) (entry : Text × Value) : Option Value :=
  if keyOf? entry.1 entry.2 = some name then some entry.2 else none

theorem storedUnder?_eq_none_iff {name : Text} {entry : Text × Value} :
    storedUnder? name entry = none ↔ keyOf? entry.1 entry.2 ≠ some name := by
  rw [storedUnder?, ite_eq_right_iff]
  exact forall_congr' fun _ => iff_of_false (Option.some_ne_none _) not_false

/-- One value more is bound last. -/
theorem ofValues_concat (values : Values) (entry : Text × Value) :
    ofValues (values ++ [entry]) =
      match keyOf? entry.1 entry.2 with
      | some name => (ofValues values).insert name entry.2
      | none => ofValues values := by
  rw [ofValues, List.foldl_append]
  rfl

/-- **A name stands for** the last value that is stored under it. -/
theorem get?_ofValues (values : Values) (name : Text) :
    (ofValues values).get? name = values.reverse.findSome? (storedUnder? name) := by
  induction values using List.reverseRecOn with
  | nil => rfl
  | append_singleton values entry ih =>
    rw [ofValues_concat, List.reverse_concat, List.findSome?_cons, storedUnder?, ← ih]
    cases stored : keyOf? entry.1 entry.2 with
    | none => rfl
    | some other =>
      rw [Bindings.get?_insert]
      by_cases same : other = name
      · rw [if_pos same, if_pos (congrArg some same)]
      · rw [if_neg same, if_neg fun h => same (Option.some.inj h)]

variable {values front back : Values} {key name : Text} {value : Value}

/-- A value is found under the name under which it is stored, unless a later one is stored there. -/
theorem get?_ofValues_of_last (entry : values = front ++ (key, value) :: back)
    (stored : keyOf? key value = some name)
    (last : ∀ other ∈ back, keyOf? other.1 other.2 ≠ some name) :
    (ofValues values).get? name = some value := by
  have behind : back.reverse.findSome? (storedUnder? name) = none :=
    List.findSome?_eq_none_iff.mpr fun other mem =>
      storedUnder?_eq_none_iff.mpr (last other (List.mem_reverse.mp mem))
  rw [get?_ofValues, entry, List.reverse_append, List.reverse_cons, List.findSome?_append,
    List.findSome?_append, behind, Option.none_or, List.findSome?_singleton, storedUnder?,
    if_pos stored, Option.some_or]

theorem get?_ofValues_eq_none (absent : ∀ entry ∈ values, keyOf? entry.1 entry.2 ≠ some name) :
    (ofValues values).get? name = none := by
  rw [get?_ofValues, List.findSome?_eq_none_iff]
  intro entry mem
  exact storedUnder?_eq_none_iff.mpr (absent entry (List.mem_reverse.mp mem))

/-- **A value with a name for its key** is stored under this name, an object under its lower case
form. -/
theorem keyOf?_of_isIdentifier (isName : Path.isIdentifier key = true) (value : Value) :
    keyOf? key value = some (if value.isObject then Text.lowerCase key else key) := by
  have named := Path.isPosition_of_isIdentifier isName
  cases value <;> simp [keyOf?, named, Value.isObject]

/-! ## Values under their own names -/

/-- What is found under a name is what a loop runs over, what makes a condition true, and what a
pipeline starts from. -/
theorem consumers_of_get? {env : Env} (isName : Path.isIdentifier key = true)
    (found : env.lookup.get? key = some value) :
    Path.resolve? env.lookup key = some value ∧
      Condition.holds env.lookup key = .ok value.isTruthy ∧
      ∀ surroundings registry,
        Pipeline.start ⟨surroundings, registry, env⟩ key = (some value, []) := by
  have trimmed := Text.trim_of_isTrimmed (Path.isWord_of_isIdentifier isName).isTrimmed
  refine ⟨?_, ?_, fun surroundings registry => ?_⟩
  · rw [Path.resolve?_of_isIdentifier isName, found]
  · simp only [Condition.holds, trimmed, found]
  · simp only [Pipeline.start, found]

/-- **Values under their own names.** Let a value be supplied with a name for its key, and let no
other entry be stored under this name or under its lower case form. Under the name itself the value
is found exactly if it is no object or the name is its own lower case form. It is then what loops,
conditions and pipelines find under this name wherever no loop and no variable has it. An object is
always found under the lower case form. -/
theorem resolve?_own_name (entry : values = front ++ (key, value) :: back)
    (isName : Path.isIdentifier key = true)
    (alone : ∀ other ∈ front ++ back, keyOf? other.1 other.2 ≠ some key ∧
      keyOf? other.1 other.2 ≠ some (Text.lowerCase key)) :
    Path.resolve? (ofValues values).lookup key =
        (if value.isObject = false ∨ Text.lowerCase key = key then some value else none) ∧
      (value.isObject = true →
        Path.resolve? (ofValues values).lookup (Text.lowerCase key) = some value) ∧
      (value.isObject = false ∨ Text.lowerCase key = key → ∀ locals globals : Scope,
        locals.get? key = none → globals.get? key = none →
          let env : Env := ⟨locals, globals, ofValues values⟩
          Path.resolve? env.lookup key = some value ∧
            Condition.holds env.lookup key = .ok value.isTruthy ∧
            ∀ surroundings registry,
              Pipeline.start ⟨surroundings, registry, env⟩ key = (some value, [])) := by
  have stored := keyOf?_of_isIdentifier isName value
  have later : ∀ other ∈ back, keyOf? other.1 other.2 ≠ some key ∧
      keyOf? other.1 other.2 ≠ some (Text.lowerCase key) :=
    fun other mem => alone other (List.mem_append_right front mem)
  have own (written : value.isObject = false ∨ Text.lowerCase key = key) :
      (ofValues values).get? key = some value := by
    have here : keyOf? key value = some key := by
      rcases written with scalar | lower
      · rw [stored, scalar, if_neg Bool.false_ne_true]
      · rw [stored, lower, ite_self]
    exact get?_ofValues_of_last entry here fun other mem => (later other mem).1
  refine ⟨?_, fun object => ?_, fun written locals globals unbound unset => ?_⟩
  · rw [Path.resolve?_of_isIdentifier isName]
    split
    · next written => exact own written
    · next capital =>
      rw [not_or, Bool.not_eq_false] at capital
      refine get?_ofValues_eq_none fun other mem => ?_
      rw [entry, List.mem_append, List.mem_cons] at mem
      rcases mem with mem | rfl | mem
      · exact (alone other (List.mem_append_left back mem)).1
      · rw [stored, capital.1, if_pos rfl, Ne, Option.some.injEq]
        exact capital.2
      · exact (later other mem).1
  · have found : (ofValues values).get? (Text.lowerCase key) = some value := by
      rw [object, if_pos rfl] at stored
      exact get?_ofValues_of_last entry stored fun other mem => (later other mem).2
    have whole : (ofValues values).lookup.get? (Text.lowerCase key) = some value := found
    rw [Path.resolve?, whole]
  · refine consumers_of_get? isName (Env.get?_eq_some_iff.mpr ?_)
    refine ⟨[locals, globals], ofValues values, [], rfl, own written, ?_⟩
    exact List.forall_mem_cons.mpr ⟨unbound, List.forall_mem_singleton.mpr unset⟩

/-- A list under a capital name, between objects that are stored under other names. -/
theorem resolve?_own_name_of_list :
    let items : Value := .list [.text "a".toList, .null]
    let values : Values :=
      [("0".toList, .object (some "Invoice".toList) []), ("Items".toList, items),
        ("Customer".toList, .object none [])]
    Path.resolve? (ofValues values).lookup "Items".toList = some items ∧
      Condition.holds (Env.lookup ⟨[], [], ofValues values⟩) "Items".toList = .ok true := by
  intro items values
  have isName : Path.isIdentifier "Items".toList = true := by decide +kernel
  have entry : values = [("0".toList, .object (some "Invoice".toList) [])] ++
      ("Items".toList, items) :: [("Customer".toList, .object none [])] := rfl
  obtain ⟨found, -, seen⟩ := resolve?_own_name entry isName (by decide +kernel)
  exact ⟨found, (seen (.inl rfl) [] [] rfl rfl).2.1⟩

/-- **An object under a capital name** is not found under this name: a loop over it has no rounds,
and a condition that names it is false. -/
theorem object_under_capital_name :
    let tag (inner : String) : Text := Markup.opening ++ inner.toList ++ Markup.closing
    let session : Session := { loader := Loader.ofTemplates [] }
    let values : Values := [("Foo".toList, .object none [("a".toList, .text "X".toList)])]
    Path.isIdentifier "Foo".toList = true ∧
      (Path.resolve? (ofValues values).lookup "Foo".toList).isNone = true ∧
      (session.render 0 (tag " Foo.a ") values).1 = .ok "X".toList ∧
      (session.render 0 (tag " for i in Foo " ++ tag " i " ++ tag " endfor ") values).1 =
        .ok [] ∧
      (session.render 0 (tag " if Foo " ++ "yes".toList ++ tag " endif ") values).1 = .ok [] := by
  decide +kernel

end Scope

end Stencil
