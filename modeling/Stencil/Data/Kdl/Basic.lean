import Stencil.Value.Basic

/-!
# KDL documents

A KDL document is a list of nodes. A node has a name, entries, which are arguments and
properties, and child nodes.

## Main definitions

* `KdlNode`: nodes
* `KdlNode.value`: the value of a node
* `KdlNode.fields`: nodes as fields; nodes of one name become a list
-/

namespace Stencil

/-- A node. An entry with a name is a property, and one without is an argument. -/
inductive KdlNode where
  | node (name : Text) (entries : List (Option Text × Value)) (children : List KdlNode)

namespace KdlNode

/-- The name of a node. -/
def name : KdlNode → Text
  | node name _ _ => name

/-- The properties among entries. -/
def properties (entries : List (Option Text × Value)) : List (Text × Value) :=
  entries.filterMap fun (name?, value) => name?.map (·, value)

/-- The arguments among entries. -/
def arguments (entries : List (Option Text × Value)) : List Value :=
  entries.filterMap fun (name?, value) => if name?.isNone then some value else none

/-- The value of arguments on their own: a flag, a value, or a list. -/
def bareValue : List Value → Value
  | [] => .bool true
  | [argument] => argument
  | arguments => .list arguments

/-- The fields of a node together with its arguments: one argument is a field of its own,
and several are a list. -/
def withArguments (fields : Bindings) : List Value → Bindings
  | [] => fields
  | [argument] => fields.insert "value" argument
  | arguments => fields.insert "values" (.list arguments)

/-- The value of a node from the fields of its children and its entries. A property
replaces a child of the same name. -/
def combine (children : Bindings) (entries : List (Option Text × Value)) : Value :=
  let fields := (properties entries).foldl (fun fields (name, value) => fields.insert name value)
    children
  if fields = [] then bareValue (arguments entries)
  else .object none (withArguments fields (arguments entries))

/-- Adds a value to the group of a name. -/
def addToGroup (name : Text) (value : Value) : List (Text × List Value) → List (Text × List Value)
  | [] => [(name, [value])]
  | (key, values) :: rest =>
    if key = name then (key, values ++ [value]) :: rest
    else (key, values) :: addToGroup name value rest

/-- The value of a group: a single value stands for itself. -/
def groupValue : List Value → Value
  | [value] => value
  | values => .list values

/-- Groups as fields. -/
def groupFields (groups : List (Text × List Value)) : Bindings :=
  groups.map fun (name, values) => (name, groupValue values)

mutual

/-- The value of a node. -/
def value : KdlNode → Value
  | node _ entries children => combine (groupFields (groups children [])) entries

/-- The values of nodes, grouped by name in addition to the groups `before`. -/
def groups : List KdlNode → List (Text × List Value) → List (Text × List Value)
  | [], before => before
  | node name entries children :: rest, before =>
    groups rest (addToGroup name (value (node name entries children)) before)

end

/-- Nodes as fields, in the order in which their names first occur. -/
def fields (nodes : List KdlNode) : Bindings :=
  groupFields (groups nodes [])

end KdlNode

end Stencil
