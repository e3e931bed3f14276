import Stencil.Number.Decimal
import Stencil.Value.Basic
import Stencil.Data.Yaml.Token

/-!
# YAML nodes

The content of a YAML document: scalars, sequences and mappings. A plain scalar stands for
null, a truth value or a number if it spells one; every other scalar is a text.

## Main definitions

* `YamlNode`: nodes
* `Yaml.plainValue?`: the value of a plain scalar
* `YamlNode.value?`: the value of a node
* `Yaml.node`: takes a node from the start of the tokens
* `Yaml.parse?`: the value of a whole text
-/

namespace Stencil

/-- The content of a YAML document. -/
inductive YamlNode where
  | scalar (content : Text) (isPlain : Bool) (tag : Option Text)
  | sequence (items : List YamlNode) (tag : Option Text)
  | mapping (pairs : List (YamlNode × YamlNode)) (tag : Option Text)

namespace Yaml

/-! ### Plain scalars -/

/-- Whether a scalar is digits with a leading zero; such a scalar is a text. -/
def isPaddedNumber (scalar : Text) : Bool :=
  let digits := match scalar with | '-' :: rest | '+' :: rest => rest | _ => scalar
  match digits with
  | '0' :: c :: rest => (c :: rest).all Char.isDigit
  | _ => false

/-- The value of digits of a base. -/
def based? (base : Nat) (digits : Text) : Option Nat :=
  if digits ≠ [] ∧ digits.all (fun c => (Text.hexDigit? c).any (· < base)) then
    some (digits.foldl (fun n c => n * base + (Text.hexDigit? c).getD 0) 0)
  else none

/-- The absolute value of an integer without its sign. -/
def magnitude? (digits : Text) : Option Nat :=
  match digits with
  | '0' :: 'x' :: rest => based? 16 rest
  | '0' :: 'o' :: rest => based? 8 rest
  | '0' :: 'b' :: rest => based? 2 rest
  | _ => based? 10 digits

/-- The integer that a scalar spells. -/
def integer? (scalar : Text) : Option Int :=
  if isPaddedNumber scalar then none
  else
    match scalar with
    | '-' :: rest => (magnitude? rest).map fun n => -(n : Int)
    | '+' :: rest => (magnitude? rest).map fun n => (n : Int)
    | _ => (magnitude? scalar).map fun n => (n : Int)

/-- The number with a fraction or an exponent, or without end, that a scalar spells. -/
def float? (scalar : Text) : Option Number :=
  let unsigned := match scalar with | '+' :: rest => rest | _ => scalar
  let isOneOf (words : List String) (text : Text) : Bool := words.any fun word => word.toList == text
  if scalar.head? == some '+' && unsigned.head?.any (fun c => c == '+' || c == '-') then none
  else if isOneOf [".inf", ".Inf", ".INF"] unsigned then some (Number.infinity false)
  else if isOneOf ["-.inf", "-.Inf", "-.INF"] scalar then some (Number.infinity true)
  else if isOneOf [".nan", ".NaN", ".NAN"] scalar then some (Number.nan false)
  else if isPaddedNumber scalar then none
  else (Number.ofText? unsigned).filter Number.isFinite

/-- The value of a plain scalar. An integer of more than 64 but no more than 128 bits has
none. -/
def plainValue? (scalar : Text) : Option Value :=
  let isOneOf (words : List String) : Bool := words.any fun word => word.toList == scalar
  if scalar = [] ∨ isOneOf ["null", "Null", "NULL", "~"] then some .null
  else if isOneOf ["true", "True", "TRUE"] then some (.bool true)
  else if isOneOf ["false", "False", "FALSE"] then some (.bool false)
  else
    match integer? scalar with
    | some n =>
      if Width.signed 64 n || Width.unsigned 64 n then some (.number (Number.ofInt n))
      else if Width.signed 128 n || Width.unsigned 128 n then none
      else some ((float? scalar).elim (.text scalar) .number)
    | none => some ((float? scalar).elim (.text scalar) .number)

/-- The value of a scalar with a tag for truth values, integers, numbers or null. -/
def taggedValue? (tag scalar : Text) : Option Value :=
  let name (word : String) : Text := "tag:yaml.org,2002:".toList ++ word.toList
  match tag == name "bool", tag == name "int", tag == name "float", tag == name "null",
    plainValue? scalar with
  | true, _, _, _, some (.bool b) => some (.bool b)
  | true, _, _, _, _ => none
  | _, true, _, _, some (.number n) => if (integer? scalar).isSome then some (.number n) else none
  | _, true, _, _, _ => none
  | _, _, true, _, _ => (float? scalar).map .number
  | _, _, _, true, some .null => some .null
  | _, _, _, true, _ => none
  | _, _, _, _, _ => some (.text scalar)

/-- Whether a tag is of the document's own making; such a node has no value. -/
def isLocalTag (tag : Option Text) : Bool :=
  tag.any fun tag => tag.head? == some '!'

end Yaml

namespace YamlNode

/-- How deep collections may nest. -/
def maxDepth : Nat := 128

/-- The text of a scalar, as a key has it. -/
def key? : YamlNode → Option Text
  | scalar content _ _ => some content
  | _ => none

mutual

/-- The value of a node that is nested at most `depth` times. -/
def value? (depth : Nat) : YamlNode → Option Value
  | scalar content isPlain tag =>
    if Yaml.isLocalTag tag then none
    else
      match tag with
      | some tag => Yaml.taggedValue? tag content
      | none => if isPlain then Yaml.plainValue? content else some (.text content)
  | sequence items tag =>
    match depth with
    | 0 => none
    | depth + 1 => if Yaml.isLocalTag tag then none else (itemValues? depth items).map .list
  | mapping pairs tag =>
    match depth with
    | 0 => none
    | depth + 1 =>
      if Yaml.isLocalTag tag then none
      else (pairValues? depth pairs).map fun pairs => .object none (Bindings.ofPairs pairs)

/-- The values of the elements of a sequence. -/
def itemValues? (depth : Nat) : List YamlNode → Option (List Value)
  | [] => some []
  | item :: rest => do return (← value? depth item) :: (← itemValues? depth rest)

/-- The keys and values of a mapping. -/
def pairValues? (depth : Nat) : List (YamlNode × YamlNode) → Option (List (Text × Value))
  | [] => some []
  | (key, item) :: rest => do
    return (← key? key, ← value? depth item) :: (← pairValues? depth rest)

end

end YamlNode

namespace Yaml

/-! ### Nodes of tokens -/

/-- The nodes that anchors name, the latest first. -/
abbrev Anchors := List (Text × YamlNode)

/-- What is left of the tokens, and the anchors so far. -/
structure NodeState where
  /-- The tokens that are left. -/
  tokens : List YamlToken
  /-- The anchors so far. -/
  anchors : Anchors := []

/-- A reader of tokens. -/
abbrev NodeReader := StateT NodeState Option

/-- The next token, which is left. -/
def peek : NodeReader (Option YamlToken) := do
  return (← get).tokens.head?

/-- Takes a token. -/
def drop : NodeReader Unit :=
  modify fun state => { state with tokens := state.tokens.tail }

/-- Takes the next token if it is a given one. -/
def accept (token : YamlToken) : NodeReader Bool := do
  if (← peek) == some token then
    drop
    return true
  return false

/-- Takes a given token. -/
def expect (token : YamlToken) : NodeReader Unit := do
  if !(← accept token) then failure

/-- Whether one of some tokens comes next, or none at all. -/
def stopsAt (stops : List YamlToken) : NodeReader Bool := do
  return (← peek).all stops.contains

/-- The scalar that stands for something left out. -/
def emptyScalar : YamlNode := .scalar [] true none

/-- Takes the anchor and the tag in front of a node, in either order. -/
def properties : NodeReader (Option Text × Option Text) := do
  match ← peek with
  | some (.anchor name) =>
    drop
    match ← peek with
    | some (.tag tag) =>
      drop
      return (some name, some tag)
    | _ => return (some name, none)
  | some (.tag tag) =>
    drop
    match ← peek with
    | some (.anchor name) =>
      drop
      return (some name, some tag)
    | _ => return (none, some tag)
  | _ => return (none, none)

/-- Binds an anchor to a node. -/
def bindAnchor (name? : Option Text) (node : YamlNode) : NodeReader YamlNode := do
  match name? with
  | some name => modify fun state => { state with anchors := (name, node) :: state.anchors }
  | none => pure ()
  return node

mutual

/-- Takes a node. In a block, `indentless` says whether a sequence may stand at the
indentation of the mapping around it. Every step takes a token, so a multiple of their number
is `fuel` enough. -/
def node (fuel : Nat) (block indentless : Bool) : NodeReader YamlNode :=
  match fuel with
  | 0 => failure
  | fuel + 1 => do
    match ← peek with
    | some (.alias name) =>
      drop
      match (← get).anchors.lookup name with
      | some node => return node
      | none => failure
    | _ =>
      let (anchor?, tag?) ← properties
      let content : Option YamlNode ← (do
        match ← peek with
        | some (.scalar content isPlain) =>
          drop
          return some (.scalar content (isPlain && tag?.isNone) tag?)
        | some .flowSequenceStart =>
          drop
          return some (.sequence (← flowItems fuel true) tag?)
        | some .flowMappingStart =>
          drop
          return some (.mapping (← flowPairs fuel true) tag?)
        | some .blockSequenceStart =>
          if block then
            drop
            return some (.sequence (← blockItems fuel) tag?)
          return none
        | some .blockMappingStart =>
          if block then
            drop
            return some (.mapping (← blockPairs fuel) tag?)
          return none
        | some .blockEntry =>
          if indentless then return some (.sequence (← indentlessItems fuel) tag?)
          return none
        | _ => return none)
      match content with
      | some node => bindAnchor anchor? node
      | none =>
        -- an anchor or a tag alone makes an empty node
        if anchor?.isSome || tag?.isSome then
          bindAnchor anchor? (.scalar [] tag?.isNone tag?)
        else failure

/-- Takes a node, or nothing where one of some tokens comes next. -/
def nodeOrEmpty (fuel : Nat) (block indentless : Bool) (stops : List YamlToken) :
    NodeReader YamlNode :=
  match fuel with
  | 0 => failure
  | fuel + 1 => do
    if ← stopsAt stops then return emptyScalar
    node fuel block indentless

/-- Takes the entries of a block sequence up to its end. -/
def blockItems (fuel : Nat) : NodeReader (List YamlNode) :=
  match fuel with
  | 0 => failure
  | fuel + 1 => do
    if ← accept .blockEnd then return []
    expect .blockEntry
    let item ← nodeOrEmpty fuel true false [.blockEntry, .blockEnd]
    return item :: (← blockItems fuel)

/-- Takes the entries of a block sequence that has no indentation of its own. -/
def indentlessItems (fuel : Nat) : NodeReader (List YamlNode) :=
  match fuel with
  | 0 => failure
  | fuel + 1 => do
    if !(← accept .blockEntry) then return []
    let item ← nodeOrEmpty fuel true false [.blockEntry, .key, .value, .blockEnd]
    return item :: (← indentlessItems fuel)

/-- Takes the pairs of a block mapping up to its end. -/
def blockPairs (fuel : Nat) : NodeReader (List (YamlNode × YamlNode)) :=
  match fuel with
  | 0 => failure
  | fuel + 1 => do
    if ← accept .blockEnd then return []
    expect .key
    let key ← nodeOrEmpty fuel true true [.key, .value, .blockEnd]
    if ← accept .value then
      let value ← nodeOrEmpty fuel true true [.key, .value, .blockEnd]
      return (key, value) :: (← blockPairs fuel)
    return (key, emptyScalar) :: (← blockPairs fuel)

/-- Takes the entries of a flow sequence up to its end. A pair among them is a mapping. -/
def flowItems (fuel : Nat) (first : Bool) : NodeReader (List YamlNode) :=
  match fuel with
  | 0 => failure
  | fuel + 1 => do
    if ← accept .flowSequenceEnd then return []
    if !first then expect .flowEntry
    if ← accept .flowSequenceEnd then return []
    if ← accept .key then
      let key ← nodeOrEmpty fuel false false [.value, .flowEntry, .flowSequenceEnd]
      let value ← flowValue fuel [.flowEntry, .flowSequenceEnd]
      return .mapping [(key, value)] none :: (← flowItems fuel false)
    let item ← node fuel false false
    return item :: (← flowItems fuel false)

/-- Takes the pairs of a flow mapping up to its end. A key may have no value. -/
def flowPairs (fuel : Nat) (first : Bool) : NodeReader (List (YamlNode × YamlNode)) :=
  match fuel with
  | 0 => failure
  | fuel + 1 => do
    if ← accept .flowMappingEnd then return []
    if !first then expect .flowEntry
    if ← accept .flowMappingEnd then return []
    if ← accept .key then
      let key ← nodeOrEmpty fuel false false [.value, .flowEntry, .flowMappingEnd]
      let value ← flowValue fuel [.flowEntry, .flowMappingEnd]
      return (key, value) :: (← flowPairs fuel false)
    let key ← node fuel false false
    return (key, emptyScalar) :: (← flowPairs fuel false)

/-- Takes the value of a pair in a flow collection, if there is one. -/
def flowValue (fuel : Nat) (stops : List YamlToken) : NodeReader YamlNode :=
  match fuel with
  | 0 => failure
  | fuel + 1 => do
    if ← accept .value then nodeOrEmpty fuel false false stops
    else return emptyScalar

end

/-! ### Documents -/

/-- Takes the only document of a text. -/
def document (fuel : Nat) : NodeReader YamlNode := do
  modify fun state =>
    { state with
      tokens := state.tokens.dropWhile fun token => token == .documentEnd || token == .directive }
  let _ ← accept .documentStart
  let root ← nodeOrEmpty fuel true false [.directive, .documentStart, .documentEnd]
  modify fun state => { state with tokens := state.tokens.dropWhile (· == .documentEnd) }
  if (← get).tokens ≠ [] then failure
  return root

/-- The value of a whole text, which is null if the text has no content. -/
def parse? (text : Text) : Option Value := do
  let tokens ← tokens? text
  let (root, _) ← (document (3 * tokens.length + 3)).run { tokens := tokens }
  root.value? YamlNode.maxDepth

end Yaml

end Stencil
