import Stencil.Data.Kdl.Basic
import Stencil.Proofs.Value.Binding

/-!
# What a node keeps

Nodes become fields, one for each name, in the order in which the names first occur; the nodes of a
name that occurs more than once become a list. A node with properties or children becomes an object
in which arguments, properties and child nodes share one set of names. A name that two of them have
belongs to one of them alone: the arguments come before the properties and these before the child
nodes.

## Main definitions

* `KdlNode.argumentField`: the field of the arguments of a node
* `KdlNode.blockFields`: the fields of a node with properties or children

## Main results

* `KdlNode.fields_eq_map`: nodes as fields
* `KdlNode.get?_blockFields`: to which part of a node a name belongs
* `KdlNode.kept_iff`: which parts of a node are found in its value
-/

namespace Stencil.KdlNode

variable {names : List Text} {name key : Text} {value : Value} {nodes children : List KdlNode}
  {entries : List (Option Text × Value)}

/-! ## Groups -/

/-- A name more is a new one or no addition. -/
theorem eraseDups_concat (names : List Text) (name : Text) :
    (names ++ [name]).eraseDups =
      if name ∈ names then names.eraseDups else names.eraseDups ++ [name] := by
  rw [List.eraseDups_append]
  split
  · next again => simp [List.removeAll, again]
  · next new => simp [List.removeAll, new, List.eraseDups_cons]

theorem nodup_eraseDups (names : List Text) : names.eraseDups.Nodup := by
  induction names using List.reverseRecOn with
  | nil => exact List.nodup_nil
  | append_singleton names name ih =>
    rw [eraseDups_concat]
    split
    · exact ih
    · next new =>
      rw [← List.concat_eq_append, List.nodup_concat, List.mem_eraseDups]
      exact ⟨new, ih⟩

/-- **A value more** goes to the end of the group of its name, and a new name behind the others. -/
theorem addToGroup_map (group : Text → List Value) (nodup : names.Nodup)
    (new : name ∉ names → group name = []) (value : Value) :
    addToGroup name value (names.map fun key => (key, group key)) =
      (if name ∈ names then names else names ++ [name]).map fun key =>
        (key, if key = name then group key ++ [value] else group key) := by
  induction names with
  | nil => simp [addToGroup, new]
  | cons first rest ih =>
    obtain ⟨fresh, nodup⟩ := List.nodup_cons.mp nodup
    rw [List.map_cons, addToGroup]
    by_cases same : first = name
    · -- the group is the first one, and names do not repeat, so the others stay
      subst same
      have others : ∀ key ∈ rest,
          (key, group key) = (key, if key = first then group key ++ [value] else group key) := by
        intro key mem
        rw [if_neg (ne_of_mem_of_not_mem mem fresh)]
      rw [if_pos rfl, if_pos (List.mem_cons_self ..), List.map_cons, if_pos rfl,
        List.map_congr_left others]
    · have elsewhere : name ∈ first :: rest ↔ name ∈ rest := by
        rw [List.mem_cons, or_iff_right (Ne.symm same)]
      rw [if_neg same, ih nodup fun absent => new (mt elsewhere.mp absent)]
      by_cases listed : name ∈ rest
      · rw [if_pos listed, if_pos (elsewhere.mpr listed), List.map_cons, if_neg same]
      · rw [if_neg listed, if_neg (mt elsewhere.mp listed), List.cons_append, List.map_cons,
          if_neg same]

theorem groups_eq_foldl (nodes : List KdlNode) (before : List (Text × List Value)) :
    groups nodes before =
      nodes.foldl (fun groups node => addToGroup node.name node.value groups) before := by
  induction nodes generalizing before with
  | nil => rfl
  | cons node nodes ih =>
    cases node
    exact ih _

/-- The values of the nodes of a name, in the order of the nodes. -/
def valuesOf (nodes : List KdlNode) (key : Text) : List Value :=
  (nodes.filter fun node => node.name == key).map KdlNode.value

theorem valuesOf_concat (nodes : List KdlNode) (node : KdlNode) (key : Text) :
    valuesOf (nodes ++ [node]) key =
      if key = node.name then valuesOf nodes key ++ [node.value] else valuesOf nodes key := by
  rw [valuesOf, List.filter_append, List.map_append, List.filter_singleton]
  by_cases same : key = node.name
  · rw [if_pos same, beq_iff_eq.mpr same.symm, cond_true]
    rfl
  · rw [if_neg same, beq_eq_false_iff_ne.mpr (Ne.symm same), cond_false, List.map_nil,
      List.append_nil]
    rfl

theorem valuesOf_eq_nil (absent : key ∉ nodes.map KdlNode.name) : valuesOf nodes key = [] := by
  rw [valuesOf, List.map_eq_nil_iff, List.filter_eq_nil_iff]
  intro node mem same
  exact absent (eq_of_beq same ▸ List.mem_map_of_mem mem)

/-- **Nodes in groups**: one for each name, in the order in which the names first occur, with the
values of its nodes in the order of the nodes. -/
theorem groups_eq_map (nodes : List KdlNode) :
    groups nodes [] =
      (nodes.map KdlNode.name).eraseDups.map fun key => (key, valuesOf nodes key) := by
  induction nodes using List.reverseRecOn with
  | nil => rfl
  | append_singleton nodes node ih =>
    have new : node.name ∉ (nodes.map KdlNode.name).eraseDups → valuesOf nodes node.name = [] :=
      fun absent => valuesOf_eq_nil (mt List.mem_eraseDups.mpr absent)
    have names : ((nodes ++ [node]).map KdlNode.name).eraseDups =
        if node.name ∈ (nodes.map KdlNode.name).eraseDups then (nodes.map KdlNode.name).eraseDups
        else (nodes.map KdlNode.name).eraseDups ++ [node.name] := by
      rw [List.map_append, List.map_singleton, eraseDups_concat]
      simp only [List.mem_eraseDups]
    rw [groups_eq_foldl, List.foldl_concat, ← groups_eq_foldl, ih,
      addToGroup_map _ (nodup_eraseDups _) new, names]
    simp only [valuesOf_concat]

/-- **Nodes as fields.** -/
theorem fields_eq_map (nodes : List KdlNode) :
    fields nodes = (nodes.map KdlNode.name).eraseDups.map fun key =>
      (key, groupValue (valuesOf nodes key)) := by
  rw [fields, groupFields, groups_eq_map, List.map_map]
  rfl

theorem names_fields (nodes : List KdlNode) :
    (fields nodes).names = (nodes.map KdlNode.name).eraseDups := by
  rw [fields_eq_map, Bindings.names, List.map_map]
  exact List.map_id _

/-! ## Blocks -/

/-- The field of the arguments of a node with properties or children: one argument is a field of its
own, and several are a list. -/
def argumentField : List Value → Bindings
  | [] => []
  | [argument] => [("value", argument)]
  | arguments => [("values", .list arguments)]

/-- The fields of a node with properties or children. -/
def blockFields (entries : List (Option Text × Value)) (children : List KdlNode) : Bindings :=
  withArguments ((properties entries).foldl
    (fun fields (name, value) => fields.insert name value) (fields children)) (arguments entries)

theorem withArguments_eq_foldl (fields : Bindings) (arguments : List Value) :
    withArguments fields arguments =
      (argumentField arguments).foldl (fun fields (name, value) => fields.insert name value)
        fields := by
  rcases arguments with - | ⟨argument, - | ⟨other, rest⟩⟩ <;> rfl

theorem ofPairs_argumentField (arguments : List Value) :
    Bindings.ofPairs (argumentField arguments) = argumentField arguments := by
  rcases arguments with - | ⟨argument, - | ⟨other, rest⟩⟩ <;> rfl

/-- **A name of a node** belongs to its arguments, or else to the property that was given last, or
else to the child nodes. -/
theorem get?_blockFields (entries : List (Option Text × Value)) (children : List KdlNode)
    (key : Text) :
    (blockFields entries children).get? key =
      ((argumentField (arguments entries)).get? key).or
        (((Bindings.ofPairs (properties entries)).get? key).or ((fields children).get? key)) := by
  rw [blockFields, withArguments_eq_foldl, Bindings.get?_foldl_insert, Bindings.get?_foldl_insert,
    ofPairs_argumentField]

section Block

variable (block : properties entries ≠ [] ∨ children ≠ [])
include block

/-- A property and a child node have a name. -/
theorem namedFields_ne_nil :
    (properties entries).foldl (fun fields (name, value) => fields.insert name value)
      (fields children) ≠ [] := by
  intro empty
  have nothing (key : Text) :
      ((Bindings.ofPairs (properties entries)).get? key).or
        ((fields children).get? key) = none := by
    rw [← Bindings.get?_foldl_insert, empty, Bindings.get?_nil]
  rcases block with given | given
  · obtain ⟨property, mem⟩ := List.exists_mem_of_ne_nil _ given
    have named := Bindings.mem_names_ofPairs.mpr (List.mem_map_of_mem mem)
    obtain ⟨value, found⟩ := Bindings.exists_get?_of_mem_names named
    simpa [found] using nothing property.1
  · obtain ⟨node, mem⟩ := List.exists_mem_of_ne_nil _ given
    have named : node.name ∈ (fields children).names :=
      names_fields children ▸ List.mem_eraseDups.mpr (List.mem_map_of_mem mem)
    obtain ⟨value, found⟩ := Bindings.exists_get?_of_mem_names named
    simpa [found] using nothing node.name

/-- **A node with properties or children** becomes an object. -/
theorem value_of_block (name : Text) :
    (node name entries children).value = .object none (blockFields entries children) := by
  rw [value, combine]
  exact if_neg (namedFields_ne_nil block)

end Block

/-- **What is kept of nodes.** Nodes become fields, one for each name in the order in which the
names first occur, and the nodes of one name keep their order. Of a node with properties or children
the arguments are always found. The last value of a property is found under its name exactly if the
arguments have no other value there, and the child nodes of a name exactly if neither the arguments
nor, without arguments there, the properties have another value under it. -/
theorem kept_iff (nodes : List KdlNode) :
    (fields nodes = (nodes.map KdlNode.name).eraseDups.map fun key =>
      (key, groupValue ((nodes.filter fun node => node.name == key).map KdlNode.value))) ∧
    ∀ (name : Text) (entries : List (Option Text × Value)) (children : List KdlNode),
      properties entries ≠ [] ∨ children ≠ [] →
        ∃ found : Bindings, (node name entries children).value = .object none found ∧
          (∀ key value, (argumentField (arguments entries)).get? key = some value →
            found.get? key = some value) ∧
          (∀ key value, (Bindings.ofPairs (properties entries)).get? key = some value →
            (found.get? key = some value ↔
              ∀ other, (argumentField (arguments entries)).get? key = some other →
                other = value)) ∧
          (∀ key value, (fields children).get? key = some value →
            (found.get? key = some value ↔
              ∀ other, ((argumentField (arguments entries)).get? key).or
                  ((Bindings.ofPairs (properties entries)).get? key) = some other →
                other = value)) := by
  refine ⟨fields_eq_map nodes, fun name entries children block => ?_⟩
  have first (taking : Option Value) (value : Value) :
      taking.or (some value) = some value ↔ ∀ other, taking = some other → other = value := by
    cases taking <;> simp
  refine ⟨blockFields entries children, value_of_block block name, ?_, ?_, ?_⟩
  · intro key value given
    rw [get?_blockFields, given, Option.some_or]
  · intro key value given
    rw [get?_blockFields, given, Option.some_or, first]
  · intro key value given
    rw [get?_blockFields, ← Option.or_assoc, given, first]

/-- A node with two arguments, a property that is given twice, and child nodes: those with the name
of the property are not found, and those of the other name are. -/
theorem kept_iff_of_item :
    let text (s : String) : Value := .text s.toList
    let entries : List (Option Text × Value) :=
      [(none, text "a"), (some "unit".toList, .null), (none, text "b"),
        (some "unit".toList, text "kg")]
    let child (name : String) (value : Value) : KdlNode := node name.toList [(none, value)] []
    let children : List KdlNode :=
      [child "value" (text "c"), child "unit" (text "g"), child "value" (text "d")]
    properties entries ≠ [] ∧
      ∃ found : Bindings, (node "item".toList entries children).value = .object none found ∧
        found.get? "values".toList = some (.list [text "a", text "b"]) ∧
        found.get? "unit".toList = some (text "kg") ∧
        found.get? "unit".toList ≠ some (text "g") ∧
        found.get? "value".toList = some (.list [text "c", text "d"]) := by
  intro text entries child children
  have block : properties entries ≠ [] := List.cons_ne_nil _ _
  obtain ⟨found, same, arguments, properties, nodes⟩ :=
    (kept_iff children).2 "item".toList entries children (.inl block)
  have unit := properties "unit".toList (text "kg") rfl
  have group := nodes "unit".toList (text "g") rfl
  have values := nodes "value".toList (.list [text "c", text "d"]) rfl
  refine ⟨block, found, same, arguments _ _ rfl, unit.mpr fun other taken => ?_, fun hidden => ?_,
    values.mpr fun other taken => ?_⟩
  · cases taken
  · exact absurd (group.mp hidden _ rfl) (by simp [text])
  · cases taken

/-- **What is lost of nodes**: child nodes with the name of a property, and a property with the name
that the argument has. -/
theorem property_hides_child :
    let child : KdlNode := node "a".toList [(none, .text "X".toList)] []
    let covering : KdlNode := node "item".toList [(some "a".toList, .bool true)] [child]
    let covered : KdlNode :=
      node "item".toList [(none, .null), (some "value".toList, .bool true)] []
    (fields [child]).get? "a".toList = some (.text "X".toList) ∧
      covering.value = .object none [("a".toList, .bool true)] ∧
      covered.value = .object none [("value".toList, .null)] :=
  ⟨rfl, rfl, rfl⟩

end Stencil.KdlNode
