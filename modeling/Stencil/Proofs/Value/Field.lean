import Stencil.Proofs.Value.Order

/-!
# Fields of supplied objects

A supplied object is stored under its key in lower case, and a path that starts with the key finds
it by a search without regard to the case of the letters from `A` to `Z`. Where lower case changes
no other letters of the key, the key as the caller writes it leads to the object, and the path
behind it to the fields of the object. An object that is stored under the same name later takes its
place, also one without a key that is stored under the name of its type.

## Main results

* `Path.segments_field`: the parts of a path to a field
* `Scope.start?_ofValues`: a path with the key for its first part starts at the object
* `Scope.resolve?_field`: the path to a field of a supplied object
-/

namespace Stencil

namespace Path

/-- A field name without dots is the last part of the path to it. -/
theorem segments_field {key field : Text} (isName : isIdentifier key = true) (noDot : '.' ∉ field) :
    segments (key ++ '.' :: field) = [key, field] := by
  have part : Text.split (· == '.') field = [field] :=
    Text.split_of_forall fun c mem => by
      rw [beq_eq_false_iff_ne]
      rintro rfl
      exact noDot mem
  rw [segments, Text.split_append_cons rfl, part]
  exact congrArg (· ++ [field]) (segments_of_isIdentifier isName)

end Path

namespace Scope

section Object

variable {values front back : Values} {key : Text} {object : Value}
  (entry : values = front ++ (key, object) :: back) (isObject : object.isObject = true)
  (isName : Path.isIdentifier key = true)

include entry isObject isName

/-- An object is found under its key in lower case, unless a later value is stored there. -/
theorem get?_ofValues_lowerCase
    (last : ∀ other ∈ back, keyOf? other.1 other.2 ≠ some (Text.lowerCase key)) :
    (ofValues values).get? (Text.lowerCase key) = some object := by
  refine get?_ofValues_of_last entry ?_ last
  rw [keyOf?_of_isIdentifier isName, isObject, if_pos rfl]

/-- No scalar and no other container is found under the key itself. -/
theorem get?_ofValues_key
    (alone : ∀ other ∈ front ++ back, keyOf? other.1 other.2 ≠ some key) :
    (ofValues values).get? key = none ∨ (ofValues values).get? key = some object := by
  by_cases lower : Text.lowerCase key = key
  · right
    have found := get?_ofValues_lowerCase entry isObject isName fun other mem =>
      lower.symm ▸ alone other (List.mem_append_right front mem)
    rwa [lower] at found
  · left
    refine get?_ofValues_eq_none fun other mem => ?_
    rw [entry, List.mem_append, List.mem_cons] at mem
    rcases mem with mem | rfl | mem
    · exact alone other (List.mem_append_left back mem)
    · rw [keyOf?_of_isIdentifier isName, isObject, if_pos rfl, Ne, Option.some.injEq]
      exact lower
    · exact alone other (List.mem_append_right front mem)

/-- **A path starts at the object** if its first part is the key as it was supplied. -/
theorem start?_ofValues (folds : Text.lowerCase key = Text.lower key)
    (alone : ∀ other ∈ front ++ back, keyOf? other.1 other.2 ≠ some key ∧
      keyOf? other.1 other.2 ≠ some (Text.lowerCase key)) :
    Path.start? (ofValues values).lookup key = some object := by
  have stored := get?_ofValues_lowerCase entry isObject isName fun other mem =>
    (alone other (List.mem_append_right front mem)).2
  have found : (ofValues values).object? key = some object := by
    rw [object?_ofValues, ← folds, stored, Option.filter_some, isObject, if_pos rfl]
  have container : object.isContainer = true := by
    cases object <;> first | rfl | cases isObject
  rw [Path.start?]
  change (((ofValues values).get? key).filter _).or ((ofValues values).object? key) = _
  rcases get?_ofValues_key entry isObject isName fun other mem => (alone other mem).1 with
    free | own
  · rw [free, Option.filter_none, Option.none_or, found]
  · rw [own, Option.filter_some, container, if_pos rfl, Option.some_or]

end Object

variable {values front back : Values} {key field : Text} {typeName : Option Text}
  {fields : List (Text × Value)}

/-- The path to a field is longer than any name under which its object is stored. -/
theorem get?_ofValues_field (entry : values = front ++ (key, .object typeName fields) :: back)
    (isName : Path.isIdentifier key = true) (folds : Text.lowerCase key = Text.lower key)
    (alone : ∀ other ∈ front ++ back, keyOf? other.1 other.2 ≠ some (key ++ '.' :: field)) :
    (ofValues values).get? (key ++ '.' :: field) = none := by
  refine get?_ofValues_eq_none fun other mem => ?_
  rw [entry, List.mem_append, List.mem_cons] at mem
  rcases mem with mem | rfl | mem
  · exact alone other (List.mem_append_left back mem)
  · rw [keyOf?_of_isIdentifier isName, Value.isObject, if_pos rfl, folds, Ne, Option.some.injEq]
    intro same
    have lengths := congrArg List.length same
    simp only [Text.lower, List.length_map, List.length_append, List.length_cons] at lengths
    omega
  · exact alone other (List.mem_append_right front mem)

/-- **The path to a field of a supplied object.** Let an object be supplied with a name for its key,
of which lower case changes only letters from `A` to `Z`. Let no other entry be stored under this
name, under its lower case form or under the path itself. Then the path that consists of the key, as
it was supplied, and of the name of a field leads to what the object has under this name. -/
theorem resolve?_field (entry : values = front ++ (key, .object typeName fields) :: back)
    (isName : Path.isIdentifier key = true) (folds : Text.lowerCase key = Text.lower key)
    (alone : ∀ other ∈ front ++ back, keyOf? other.1 other.2 ≠ some key ∧
      keyOf? other.1 other.2 ≠ some (Text.lowerCase key) ∧
      keyOf? other.1 other.2 ≠ some (key ++ '.' :: field))
    (noDot : '.' ∉ field) :
    Path.resolve? (ofValues values).lookup (key ++ '.' :: field) = Value.field? fields field := by
  have whole : (ofValues values).lookup.get? (key ++ '.' :: field) = none :=
    get?_ofValues_field entry isName folds fun other mem => (alone other mem).2.2
  have start := start?_ofValues entry rfl isName folds fun other mem =>
    (alone other mem).imp_right And.left
  rw [Path.resolve?_of_segments whole (Path.segments_field isName noDot), start, Option.bind_some,
    Path.follow?]
  cases found : Value.field? fields field with
  | none => simp [Value.member?, found]
  | some value => simp [Value.member?, found, Path.follow?]

/-- An object under a name with a capital letter and with small letters beyond ASCII, behind another
object and in front of a text. -/
theorem resolve?_field_of_capital :
    let fields : List (Text × Value) := [("name".toList, .text "n".toList), ("Preis".toList, .null)]
    let values : Values :=
      [("0".toList, .object (some "Invoice".toList) []), ("Größe".toList, .object none fields),
        ("GRÖSSE".toList, .text "a".toList)]
    Path.isIdentifier "Größe".toList = true ∧
      Text.lowerCase "Größe".toList = Text.lower "Größe".toList ∧
      Path.resolve? (ofValues values).lookup "Größe.NAME".toList = some (.text "n".toList) := by
  intro fields values
  have isName : Path.isIdentifier "Größe".toList = true := by decide +kernel
  have folds : Text.lowerCase "Größe".toList = Text.lower "Größe".toList := by decide +kernel
  have entry : values = [("0".toList, .object (some "Invoice".toList) [])] ++
      ("Größe".toList, .object none fields) :: [("GRÖSSE".toList, .text "a".toList)] := rfl
  have found : Value.field? fields "NAME".toList = some (.text "n".toList) := rfl
  have law : Path.resolve? (ofValues values).lookup ("Größe".toList ++ '.' :: "NAME".toList) = _ :=
    resolve?_field entry isName folds (by decide +kernel) (by decide)
  exact ⟨isName, folds, law.trans found⟩

/-- **The fields of an object are not found** where an object without a key has a type of the same
name and comes later, nor where the key has a capital letter beyond ASCII. -/
theorem field_of_other_object :
    let fields : List (Text × Value) := [("a".toList, .text "X".toList)]
    let retyped : Values := [("foo".toList, .object none fields),
      ("0".toList, .object (some "Foo".toList) [("a".toList, .text "Y".toList)])]
    let foreign : Values := [("É".toList, .object none fields)]
    Value.field? fields "a".toList = some (.text "X".toList) ∧
      Path.isIdentifier "foo".toList = true ∧
      Path.resolve? (ofValues retyped).lookup "foo.a".toList = some (.text "Y".toList) ∧
      Path.isIdentifier "É".toList = true ∧
      (Path.resolve? (ofValues foreign).lookup "É.a".toList).isNone = true := by
  intro fields retyped foreign
  exact ⟨rfl, rfl, rfl, by decide +kernel, by decide +kernel⟩

end Scope

end Stencil
