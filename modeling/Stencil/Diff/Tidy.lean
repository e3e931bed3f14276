import Stencil.Diff.Script

/-!
# Tidy edit scripts

A script can often be written with fewer blocks: an inserted block may slide over items that
stay, as long as it begins or ends with the same items. Blocks are made to slide until they
meet, and they come to rest as far down as they can.

## Main definitions

* `Edit.insertsFirst`: deletions go behind the insertions next to them
* `Edit.rise`, `Edit.sink`: a block slides up or down
* `Edit.tidy`: a script in which blocks have come to rest
* `Edit.deletesFirst`: deletions go before the insertions next to them
-/

namespace Stencil.Edit

variable {α : Type} [DecidableEq α]

/-! ### Order among changes -/

/-- Puts the deletions of each stretch without kept items behind its insertions. `held` are
the deletions of the stretch so far. -/
def insertsFirst (held : List (Edit α)) : List (Edit α) → List (Edit α)
  | [] => held
  | .keep item :: rest => held ++ .keep item :: insertsFirst [] rest
  | .delete item :: rest => insertsFirst (held ++ [.delete item]) rest
  | .insert block :: rest => .insert block :: insertsFirst held rest

/-- Puts the insertions of each stretch without kept items behind its deletions. `held` are
the insertions of the stretch so far. -/
def deletesFirst (held : List (Edit α)) : List (Edit α) → List (Edit α)
  | [] => held
  | .keep item :: rest => held ++ .keep item :: deletesFirst [] rest
  | .delete item :: rest => .delete item :: deletesFirst held rest
  | .insert block :: rest => deletesFirst (held ++ [.insert block]) rest

/-! ### Sliding -/

/-- A block and the steps around it; those before it are in reverse. -/
structure Sliding (α : Type) where
  /-- The steps before the block, the nearest first. -/
  before : List (Edit α)
  /-- The block. -/
  block : List α
  /-- The steps behind the block. -/
  after : List (Edit α)

/-- Slides a block up: over deletions, over a kept item if the block ends with it, and into
another block. -/
def rise (block : List α) (after : List (Edit α)) : (before : List (Edit α)) → Sliding α
  | [] => ⟨[], block, after⟩
  | .keep item :: before =>
    if block.getLast? = some item then
      rise (item :: block.dropLast) (.keep item :: after) before
    else ⟨.keep item :: before, block, after⟩
  | .delete item :: before => rise block (.delete item :: after) before
  | .insert upper :: before => rise (upper ++ block) after before

/-- Slides a block down: over deletions, over a kept item if the block begins with it, and
into another block. -/
def sink (before : List (Edit α)) (block : List α) : (after : List (Edit α)) → Sliding α
  | [] => ⟨before, block, []⟩
  | .keep item :: after =>
    if block.head? = some item then
      sink (.keep item :: before) (block.tail ++ [item]) after
    else ⟨before, block, .keep item :: after⟩
  | .delete item :: after => sink (.delete item :: before) block after
  | .insert lower :: after => sink before (block ++ lower) after

/-- Lets every block rise and then sink, from the start of a script on. A block does not come
to rest above the place where it was, so that as many steps as the script has are enough. -/
def settle : (steps : Nat) → (before after : List (Edit α)) → List (Edit α)
  | 0, before, after => before.reverse ++ after
  | _, before, [] => before.reverse
  | steps + 1, before, .insert block :: after =>
    let risen := rise block after before
    let sunk := sink risen.before risen.block risen.after
    settle steps (.insert sunk.block :: sunk.before) sunk.after
  | steps + 1, before, step :: after => settle steps (step :: before) after

/-- A script in which deletions have found together and blocks have come to rest, with
deletions in front of the insertions next to them. -/
def tidy (script : List (Edit α)) : List (Edit α) :=
  let script := insertsFirst [] script
  deletesFirst [] (settle script.length [] script)

end Stencil.Edit
