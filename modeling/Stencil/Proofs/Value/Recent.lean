import Stencil.Proofs.Value.Binding
import Stencil.Proofs.Value.Supplied
import Stencil.Value.Supplied

/-!
# The last supplied value

The values of several sources are supplied one after the other. A value that is supplied under a
key again takes the place of the one before it, whatever their kinds are, and nothing is left of
that one. Keys that differ in letter case are different, and objects under such keys are still
stored under one name. A key that is supplied again keeps its place among them.

## Main results

* `Values.merge_ofPairs`: the values of one more source are supplied behind the others
* `Scope.get?_ofValues_ofPairs`: when the last value that is stored under a name is found there
-/

namespace Stencil

/-- **The values of one more source** are supplied behind those that are there. -/
theorem Values.merge_ofPairs (pairs others : List (Text × Value)) :
    merge (Bindings.ofPairs pairs) others = Bindings.ofPairs (pairs ++ others) := by
  rw [merge, Bindings.ofPairs, Bindings.ofPairs, List.foldl_append]

namespace Scope

/-- **The last supplied value** counts. Let `value` be the last of the supplied values that is
stored under a name, and let it be supplied under `key`, with none behind it under this key. Then
the name stands for it, provided that since the first value under `key` no other key was supplied
for the first time of which the value is stored under the same name. -/
theorem get?_ofValues_ofPairs {pairs start between behind : List (Text × Value)} {key name : Text}
    {value : Value} (supplied : pairs = start ++ between ++ (key, value) :: behind)
    (stored : keyOf? key value = some name)
    (last : ∀ other ∈ behind, keyOf? other.1 other.2 ≠ some name)
    (kept : ∀ other ∈ behind, other.1 ≠ key)
    (first : key ∉ start.map Prod.fst)
    (alone : ∀ other ∈ Bindings.ofPairs pairs, other.1 ∈ between.map Prod.fst → other.1 ≠ key →
      other.1 ∉ start.map Prod.fst → keyOf? other.1 other.2 ≠ some name) :
    (ofValues (Bindings.ofPairs pairs)).get? name = some value := by
  have found : (Bindings.ofPairs pairs).get? key = some value :=
    supplied ▸ Bindings.get?_ofPairs kept
  obtain ⟨front, back, split⟩ := List.append_of_mem (Bindings.mem_of_get? found)
  refine get?_ofValues_of_last split stored fun other mem => ?_
  have listed : other ∈ Bindings.ofPairs pairs :=
    split ▸ List.mem_append_right _ (List.mem_cons_of_mem _ mem)
  have different : other.1 ≠ key := by
    have nodup := Bindings.nodup_names_ofPairs pairs
    rw [split] at nodup
    exact ne_of_mem_of_not_mem (List.mem_map_of_mem mem) (Bindings.notMem_names_of_nodup nodup).2
  -- a key that was supplied before `key` has its place in front of it
  have late : other.1 ∉ start.map Prod.fst := by
    intro early
    rw [supplied, List.append_assoc] at split
    exact Bindings.notMem_names_of_bound_before split early first (List.mem_map_of_mem mem)
  have call := Bindings.mem_of_mem_ofPairs listed
  rw [supplied, List.mem_append, List.mem_append, List.mem_cons] at call
  rcases call with (mem | mem) | same | mem
  · exact absurd (List.mem_map_of_mem mem) late
  · exact alone other listed (List.mem_map_of_mem mem) different late
  · exact absurd (congrArg Prod.fst same) different
  · exact last other mem

/-- Three sources spell the key of an object in two ways; the last one has the value that counts,
under a key that was first supplied behind the other spelling. -/
theorem get?_ofValues_ofPairs_of_sources :
    let object (name : String) : Value := .object none [("name".toList, .text name.toList)]
    let settings : List (Text × Value) := [("customer".toList, object "a")]
    let first : List (Text × Value) :=
      [("Customer".toList, object "b"), ("0".toList, .object (some "Invoice".toList) [])]
    let second : List (Text × Value) :=
      [("Customer".toList, object "c"), ("CUSTOMER".toList, .null)]
    let values : Values := Values.merge (Values.merge (Bindings.ofPairs settings) first) second
    keyOf? "Customer".toList (object "c") = some "customer".toList ∧
      (ofValues values).get? "customer".toList = some (object "c") := by
  intro object settings first second values
  have stored : keyOf? "Customer".toList (object "c") = some "customer".toList := by decide +kernel
  have supplied : values = Bindings.ofPairs (settings ++ first ++ second) := by
    simp only [values, Values.merge_ofPairs]
  refine ⟨stored, ?_⟩
  rw [supplied]
  exact get?_ofValues_ofPairs rfl stored (by decide +kernel) (by decide +kernel) (by decide +kernel)
    (by decide +kernel)

/-- **A value of another kind** under the same key leaves nothing of the object before it, so that
no value is found where the object was stored. Where two keys are stored under one name, a value
that is supplied again under the first of them does not count. -/
theorem replaced_value_is_not_found :
    let object (name : String) : Value := .object none [("a".toList, .text name.toList)]
    let replaced : List (Text × Value) :=
      [("Foo".toList, object "X"), ("Foo".toList, .text "t".toList)]
    let respelled : List (Text × Value) :=
      [("Foo".toList, object "X"), ("foo".toList, object "Y"), ("Foo".toList, object "Z")]
    keyOf? "Foo".toList (object "X") = some "foo".toList ∧
      keyOf? "Foo".toList (.text "t".toList) = some "Foo".toList ∧
      ((ofValues (Bindings.ofPairs replaced)).get? "foo".toList).isNone = true ∧
      keyOf? "Foo".toList (object "Z") = some "foo".toList ∧
      (ofValues (Bindings.ofPairs respelled)).get? "foo".toList = some (object "Y") := by
  intro object replaced respelled
  have stored (name : String) : keyOf? "Foo".toList (object name) = some "foo".toList := by
    rw [keyOf?]
    decide +kernel
  exact ⟨stored "X", rfl, by decide +kernel, stored "Z", rfl⟩

end Scope

end Stencil
