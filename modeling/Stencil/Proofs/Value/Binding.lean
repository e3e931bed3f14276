import Mathlib.Data.List.Induction
import Mathlib.Data.List.Nodup
import Stencil.Value.Basic

/-!
# Names bound one after the other

Binding a name that is bound already replaces its value and leaves everything in its place; binding
a new name adds it at the end. So the names stand in the order in which each was bound first, and
each of them stands for the value to which it was bound last.

## Main results

* `Bindings.insert_of_mem`, `Bindings.insert_of_notMem`: binding a name
* `Bindings.names_ofPairs_append`: names that are bound later stand behind
* `Bindings.get?_ofPairs`: a name stands for the value to which it was bound last
-/

namespace Stencil.Bindings

variable {bindings front back : Bindings} {name key : Text} {value old bound : Value}

theorem names_append (bindings others : Bindings) :
    names (bindings ++ others) = bindings.names ++ others.names := List.map_append

/-- The bindings in front are found first. -/
theorem get?_append (bindings others : Bindings) (name : Text) :
    get? (bindings ++ others) name = (bindings.get? name).or (others.get? name) := by
  rw [get?, List.find?_append, Option.map_or]
  rfl

theorem get?_eq_none (h : name ∉ bindings.names) : bindings.get? name = none := by
  rw [get?, Option.map_eq_none_iff, List.find?_eq_none]
  intro entry mem same
  exact h (eq_of_beq same ▸ List.mem_map_of_mem mem)

/-! ## Binding one name -/

/-- **A name that is bound already** gets the new value in its place. -/
theorem insert_of_mem (fresh : name ∉ front.names) :
    insert (front ++ (name, old) :: back) name value = front ++ (name, value) :: back := by
  induction front with
  | nil => rw [List.nil_append, insert, if_pos rfl, List.nil_append]
  | cons first front ih =>
    obtain ⟨other, bound⟩ := first
    obtain ⟨different, fresh⟩ := List.ne_and_not_mem_of_not_mem_cons fresh
    rw [List.cons_append, insert, if_neg (Ne.symm different), ih fresh, List.cons_append]

/-- **A new name** is added at the end. -/
theorem insert_of_notMem (fresh : name ∉ bindings.names) :
    bindings.insert name value = bindings ++ [(name, value)] := by
  induction bindings with
  | nil => rfl
  | cons first rest ih =>
    obtain ⟨other, bound⟩ := first
    obtain ⟨different, fresh⟩ := List.ne_and_not_mem_of_not_mem_cons fresh
    rw [insert, if_neg (Ne.symm different), ih fresh, List.cons_append]

/-- A name that is bound has a first binding. -/
theorem exists_of_mem_names (h : name ∈ bindings.names) :
    ∃ (front : Bindings) (old : Value) (back : Bindings),
      bindings = front ++ (name, old) :: back ∧ name ∉ front.names := by
  induction bindings with
  | nil => cases h
  | cons first rest ih =>
    obtain ⟨other, bound⟩ := first
    by_cases same : name = other
    · subst same
      exact ⟨[], bound, rest, rfl, List.not_mem_nil⟩
    · obtain ⟨front, old, back, rfl, fresh⟩ := ih ((List.mem_cons.mp h).resolve_left same)
      exact ⟨(other, bound) :: front, old, back, rfl, List.not_mem_cons_of_ne_of_not_mem same fresh⟩

theorem exists_get?_of_mem_names (h : name ∈ bindings.names) :
    ∃ value, bindings.get? name = some value := by
  obtain ⟨front, old, back, rfl, fresh⟩ := exists_of_mem_names h
  exact ⟨old, by rw [get?_append, get?_eq_none fresh, Option.none_or, get?_cons, if_pos rfl]⟩

/-- Binding a name changes no name, and adds its own if it is new. -/
theorem names_insert (bindings : Bindings) (name : Text) (value : Value) :
    (bindings.insert name value).names =
      if name ∈ bindings.names then bindings.names else bindings.names ++ [name] := by
  split
  · next bound =>
    obtain ⟨front, old, back, rfl, fresh⟩ := exists_of_mem_names bound
    rw [insert_of_mem fresh, names_append, names_append]
    rfl
  · next fresh =>
    rw [insert_of_notMem fresh, names_append]
    rfl

/-- Binding a name keeps each name bound once. -/
theorem nodup_names_insert (h : bindings.names.Nodup) :
    (bindings.insert name value).names.Nodup := by
  rw [names_insert]
  split
  · exact h
  · next fresh =>
    rw [← List.concat_eq_append, List.nodup_concat]
    exact ⟨fresh, h⟩

theorem mem_insert (h : (key, bound) ∈ bindings.insert name value) :
    (key, bound) ∈ bindings ∨ (key = name ∧ bound = value) := by
  by_cases taken : name ∈ bindings.names
  · obtain ⟨front, old, back, rfl, fresh⟩ := exists_of_mem_names taken
    rw [insert_of_mem fresh, List.mem_append, List.mem_cons] at h
    rcases h with mem | same | mem
    · exact .inl (List.mem_append_left _ mem)
    · exact .inr (Prod.mk.inj same)
    · exact .inl (List.mem_append_right _ (List.mem_cons_of_mem _ mem))
  · rw [insert_of_notMem taken, List.mem_append, List.mem_singleton] at h
    exact h.imp_right Prod.mk.inj

/-- Where each name is bound once, no other binding has the name of this one. -/
theorem notMem_names_of_nodup (nodup : (names (front ++ (name, value) :: back)).Nodup) :
    name ∉ front.names ∧ name ∉ back.names := by
  rw [names_append] at nodup
  have alone := (List.nodup_cons.mp (List.nodup_middle.mp nodup)).1
  rwa [List.mem_append, not_or] at alone

theorem mem_of_get? (h : bindings.get? name = some value) : (name, value) ∈ bindings := by
  obtain ⟨⟨other, bound⟩, found, rfl⟩ := Option.map_eq_some_iff.mp h
  have same := List.find?_some found
  exact eq_of_beq same ▸ List.mem_of_find?_eq_some found

/-! ## Binding many names -/

theorem ofPairs_concat (pairs : List (Text × Value)) (name : Text) (value : Value) :
    ofPairs (pairs ++ [(name, value)]) = (ofPairs pairs).insert name value := by
  rw [ofPairs, ofPairs, List.foldl_append]
  rfl

theorem nodup_names_ofPairs (pairs : List (Text × Value)) : (ofPairs pairs).names.Nodup := by
  induction pairs using List.reverseRecOn with
  | nil => exact List.nodup_nil
  | append_singleton pairs pair ih =>
    rw [ofPairs_concat]
    exact nodup_names_insert ih

theorem mem_names_ofPairs {pairs : List (Text × Value)} :
    name ∈ (ofPairs pairs).names ↔ name ∈ pairs.map Prod.fst := by
  induction pairs using List.reverseRecOn with
  | nil => rfl
  | append_singleton pairs pair ih =>
    rw [ofPairs_concat, names_insert, List.map_append, List.mem_append, ← ih, List.map_singleton,
      List.mem_singleton]
    split
    · next bound =>
      constructor
      · exact .inl
      · rintro (h | rfl)
        · exact h
        · exact bound
    · rw [List.mem_append, List.mem_singleton]

/-- Where names are bound that are bound already, the new values are found. -/
theorem get?_foldl_insert (bindings : Bindings) (pairs : List (Text × Value)) (name : Text) :
    (pairs.foldl (fun bindings (name, value) => bindings.insert name value) bindings).get? name =
      ((ofPairs pairs).get? name).or (bindings.get? name) := by
  induction pairs using List.reverseRecOn with
  | nil => rfl
  | append_singleton pairs pair ih =>
    rw [List.foldl_concat, ofPairs_concat, get?_insert, get?_insert, ih]
    split
    · rw [Option.some_or]
    · rfl

/-- **Names that are bound later** stand behind those that are bound already. -/
theorem names_ofPairs_append (pairs others : List (Text × Value)) :
    ∃ more, (ofPairs (pairs ++ others)).names = (ofPairs pairs).names ++ more := by
  induction others using List.reverseRecOn with
  | nil => exact ⟨[], by rw [List.append_nil, List.append_nil]⟩
  | append_singleton others pair ih =>
    obtain ⟨more, names⟩ := ih
    rw [← List.append_assoc, ofPairs_concat, names_insert, names]
    split
    · exact ⟨more, rfl⟩
    · exact ⟨more ++ [pair.1], List.append_assoc ..⟩

theorem mem_of_mem_ofPairs {pairs : List (Text × Value)} (h : (name, value) ∈ ofPairs pairs) :
    (name, value) ∈ pairs := by
  induction pairs using List.reverseRecOn with
  | nil => cases h
  | append_singleton pairs pair ih =>
    rw [ofPairs_concat] at h
    rcases mem_insert h with earlier | ⟨rfl, rfl⟩
    · exact List.mem_append_left _ (ih earlier)
    · exact List.mem_append_right _ (List.mem_singleton_self _)

/-- **A name that was bound before another one** does not stand behind it. -/
theorem notMem_names_of_bound_before {pairs others : List (Text × Value)}
    (split : ofPairs (pairs ++ others) = front ++ (key, value) :: back)
    (early : name ∈ pairs.map Prod.fst) (late : key ∉ pairs.map Prod.fst) : name ∉ back.names := by
  obtain ⟨more, bound⟩ := names_ofPairs_append pairs others
  have nodup := nodup_names_ofPairs (pairs ++ others)
  rw [split, names_append] at bound nodup
  rw [← mem_names_ofPairs] at early late
  -- the later name is none of those bound first, so these all stand in front of it
  have infront : name ∈ front.names := by
    rcases List.append_eq_append_iff.mp bound with ⟨between, first, second⟩ | ⟨between, first, -⟩
    · cases between with
      | nil => rwa [first, List.append_nil] at early
      | cons other between =>
        obtain ⟨rfl, -⟩ := List.cons.inj second
        exact absurd (first ▸ List.mem_append_right _ (List.mem_cons_self ..)) late
    · exact first ▸ List.mem_append_left _ early
  intro again
  exact (List.nodup_append.mp nodup).2.2 name infront name (List.mem_cons_of_mem _ again) rfl

/-- **A name stands for** the value to which it was bound last. -/
theorem get?_ofPairs {pairs behind : List (Text × Value)} (last : ∀ pair ∈ behind, pair.1 ≠ name) :
    (ofPairs (pairs ++ (name, value) :: behind)).get? name = some value := by
  induction behind using List.reverseRecOn with
  | nil => rw [ofPairs_concat, get?_insert, if_pos rfl]
  | append_singleton behind pair ih =>
    have different : pair.1 ≠ name :=
      last pair (List.mem_append_right _ (List.mem_singleton_self pair))
    rw [← List.cons_append, ← List.append_assoc, ofPairs_concat, get?_insert, if_neg different]
    exact ih fun other mem => last other (List.mem_append_left _ mem)

end Stencil.Bindings
