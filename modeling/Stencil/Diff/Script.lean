/-!
# Edit scripts

An edit script turns one list into another: it keeps, deletes and inserts items. The script
is found by looking for a point in the middle of a shortest way through the grid whose
diagonals stand for common items, from both ends at once, and by going on with the two
halves.

## Main definitions

* `Edit`: the steps of a script
* `Frontier`, `Diff.meeting?`: the search for a point in the middle
* `Diff.between`: a script from one list to another
-/

namespace Stencil

/-- A step of an edit script. -/
inductive Edit (α : Type) where
  /-- An item stays. -/
  | keep (item : α)
  /-- An item is deleted. -/
  | delete (item : α)
  /-- A block of items is inserted. -/
  | insert (block : List α)
  deriving DecidableEq, Repr

/-! ### Searches -/

/-- How far each diagonal of a grid has been followed. On diagonal `k` the position in the
first list exceeds the one in the second list by `k`. -/
structure Frontier where
  /-- The largest diagonal; its negative is the smallest one. -/
  bound : Nat
  /-- The position in the first list, from the smallest diagonal on. -/
  positions : Array Nat

namespace Frontier

/-- Nothing has been followed yet. -/
def initial (bound : Nat) : Frontier :=
  ⟨bound, Array.replicate (2 * bound + 1) 0⟩

/-- The position that was reached on a diagonal. -/
def position (frontier : Frontier) (k : Int) : Nat :=
  frontier.positions.getD (k + frontier.bound).toNat 0

/-- A new position on a diagonal. -/
def reach (frontier : Frontier) (k : Int) (position : Nat) : Frontier :=
  { frontier with
    positions := frontier.positions.setIfInBounds (k + frontier.bound).toNat position }

end Frontier

namespace Diff

variable {α : Type} [DecidableEq α]

/-- The number of items that two lists have in common at their start. -/
def commonStart : List α → List α → Nat
  | a :: as, b :: bs => if a = b then commonStart as bs + 1 else 0
  | _, _ => 0

/-- Where diagonal `k` is entered in a round, from the neighbour that leads further; the
way from the diagonal above wins a tie. -/
def entrance (frontier : Frontier) (round : Nat) (k : Int) : Nat :=
  let above := frontier.position (k + 1)
  let below := frontier.position (k - 1)
  if k = -(round : Int) ∨ (k ≠ round ∧ below < above) then above else below + 1

/-- The diagonals of a round, the largest first. -/
def diagonals (round : Nat) : List Int :=
  (List.range (round + 1)).map fun (i : Nat) => (round : Int) - 2 * i

/-- Follows diagonals through the grid of two lists: each is entered and then followed as
long as the items agree. Ends early with what `meets` finds for the position at which a
diagonal was entered and the one that was reached. -/
def follow {β : Type} (first second : List α) (round : Nat)
    (meets : (k : Int) → (entered reached : Nat) → Option β) :
    List Int → Frontier → Except β Frontier
  | [], frontier => .ok frontier
  | k :: rest, frontier =>
    let entered := entrance frontier round k
    let reached :=
      entered + commonStart (first.drop entered) (second.drop ((entered : Int) - k).toNat)
    match meets k entered reached with
    | some result => .error result
    | none => follow first second round meets rest (frontier.reach k reached)

/-- Searches from both ends, round by round, until the two searches meet. The search from
the end is a search from the start of the reversed lists. -/
def meetingFrom? (first second : List α) :
    (rounds round : Nat) → (ahead back : Frontier) → Option (Nat × Nat)
  | 0, _, _, _ => none
  | rounds + 1, round, ahead, back =>
    let m := first.length
    let n := second.length
    let shift := (m : Int) - n
    -- the parity of the diagonals that a round visits says which of the searches can meet the other
    let whenAhead (k : Int) (entered reached : Nat) : Option (Nat × Nat) :=
      if shift % 2 = 1 ∧ (k - shift).natAbs < round ∧ m ≤ reached + back.position (shift - k) then
        some (entered, ((entered : Int) - k).toNat)
      else none
    match follow first second round whenAhead (diagonals round) ahead with
    | .error point => some point
    | .ok ahead =>
      let whenBack (k : Int) (_ reached : Nat) : Option (Nat × Nat) :=
        if shift % 2 = 0 ∧ (k - shift).natAbs ≤ round ∧ m ≤ reached + ahead.position (shift - k)
        then some (m - reached, n - ((reached : Int) - k).toNat)
        else none
      match follow first.reverse second.reverse round whenBack (diagonals round) back with
      | .error point => some point
      | .ok back => meetingFrom? first second rounds (round + 1) ahead back

/-- A point in the middle of a shortest way through the grid of two lists, given by its
positions in both. -/
def meeting? (first second : List α) : Option (Nat × Nat) :=
  let bound := (first.length + second.length + 1) / 2 + 1
  meetingFrom? first second bound 0 (.initial bound) (.initial bound)

/-! ### Scripts -/

/-- The script that shares nothing. -/
def exchange (first second : List α) : List (Edit α) :=
  first.map .delete ++ (if second = [] then [] else [.insert second])

/-- A script from one list to another. What is common at the start and at the end stays; the
rest is divided at a point in the middle. -/
def between (first second : List α) : List (Edit α) :=
  let start := commonStart first second
  let first' := first.drop start
  let second' := second.drop start
  let stop := commonStart first'.reverse second'.reverse
  let upper := first'.take (first'.length - stop)
  let lower := second'.take (second'.length - stop)
  let middle :=
    if upper = [] ∨ lower = [] then exchange upper lower
    else
      match meeting? upper lower with
      | none => exchange upper lower
      | some (i, j) =>
        -- a division in a corner would leave the whole to one of its parts
        if _ : (upper.take i).length + (lower.take j).length < first.length + second.length ∧
            (upper.drop i).length + (lower.drop j).length < first.length + second.length then
          between (upper.take i) (lower.take j) ++ between (upper.drop i) (lower.drop j)
        else exchange upper lower
  (first.take start).map .keep ++ middle ++ (first'.drop (first'.length - stop)).map .keep
termination_by first.length + second.length
decreasing_by
  · rename_i shorter; exact shorter.1
  · rename_i shorter; exact shorter.2

end Diff

end Stencil
