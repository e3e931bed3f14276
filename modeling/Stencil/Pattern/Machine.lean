import Stencil.Pattern.Basic

/-!
# Searching for patterns

A pattern becomes a program of small instructions. A search runs all ways through the
program side by side, one character at a time; the ways are kept in the order of
preference, so that the first one to arrive decides what a pattern matches. No instruction
is visited twice at the same place of the text, which bounds the search by the product of
the two lengths.

## Main definitions

* `Instruction`, `Program`: what patterns are compiled to
* `Program.ofPattern`: the program of a pattern
* `Program.search?`: the leftmost match in a text, with the extents of its groups
-/

namespace Stencil

/-- An instruction, with the number of the instruction that comes next. -/
inductive Instruction where
  /-- Takes one character of a set. -/
  | take (set : CharSet) (next : Nat)
  /-- Goes on where a condition holds. -/
  | check (assertion : Assertion) (next : Nat)
  /-- Goes on in two ways, the first one preferred. -/
  | fork (first second : Nat)
  /-- Remembers the place in a slot. -/
  | save (slot next : Nat)
  /-- The match is complete. -/
  | done
  deriving Inhabited

/-- Numbered instructions. -/
abbrev Program := Array Instruction

namespace Program

/-! ### Compilation -/

/-- A fork that prefers the first way if `greedy`, and the second otherwise. -/
def preferring (greedy : Bool) (first second : Nat) : Instruction :=
  if greedy then .fork first second else .fork second first

/-- Adds an instruction and returns its number. -/
def emit (program : Program) (instruction : Instruction) : Program × Nat :=
  (program.push instruction, program.size)

/-- Compiles a body some number of times in a row, in front of the instruction `next`. -/
def copies (compile : Program → Nat → Program × Nat) : Nat → Program → Nat → Program × Nat
  | 0, program, next => (program, next)
  | n + 1, program, next =>
    let (program, entry) := compile program next
    copies compile n program entry

/-- Compiles up to a number of further repetitions, each of which may be left out together
with those behind it. -/
def options (compile : Program → Nat → Program × Nat) (greedy : Bool) (leave : Nat) :
    Nat → Program → Program × Nat
  | 0, program => (program, leave)
  | n + 1, program =>
    let (program, inner) := options compile greedy leave n program
    let (program, entry) := compile program inner
    emit program (preferring greedy entry leave)

/-- Compiles one or more repetitions of a body. -/
def oneOrMore (compile : Program → Nat → Program × Nat) (greedy : Bool) (program : Program)
    (next : Nat) : Program × Nat :=
  let (program, back) := emit program .done
  let (program, entry) := compile program back
  (program.set! back (preferring greedy entry next), entry)

/-- Compiles a pattern in front of the instruction `next` and returns where it starts. -/
def compile : Pattern → Program → (next : Nat) → Program × Nat
  | .empty, program, next => (program, next)
  | .one set, program, next => emit program (.take set next)
  | .check assertion, program, next => emit program (.check assertion next)
  | .seq first second, program, next =>
    let (program, entry) := compile second program next
    compile first program entry
  | .either first second, program, next =>
    let (program, right) := compile second program next
    let (program, left) := compile first program next
    emit program (.fork left right)
  | .capture index body, program, next =>
    let (program, close) := emit program (.save (2 * index + 1) next)
    let (program, entry) := compile body program close
    emit program (.save (2 * index) entry)
  | .repeated least most greedy body, program, next =>
    match most with
    | some most =>
      let (program, entry) := options (compile body) greedy next (most - least) program
      copies (compile body) least program entry
    | none =>
      let (program, entry) := oneOrMore (compile body) greedy program next
      if least = 0 then emit program (preferring greedy entry next)
      else copies (compile body) (least - 1) program entry

/-- The program of a pattern, and the number of its first instruction. Its whole extent is
remembered as the group zero. -/
def ofPattern (pattern : Pattern) : Program × Nat :=
  compile (.capture 0 pattern) #[.done] 0

/-! ### Search -/

/-- The places remembered so far. -/
abbrev Slots := Array (Option Nat)

/-- One way through the program: the instruction that it waits at, and its slots. -/
structure Way where
  /-- The instruction that the way waits at. -/
  number : Nat
  /-- The places that it remembers. -/
  slots : Slots

/-- The ways that wait for a character, best first, and the instructions already visited. -/
structure Front where
  /-- The ways, best first. -/
  ways : Array Way
  /-- The instructions already visited at this place. -/
  visited : Array Bool

/-- Follows a way from an instruction until it waits for a character or is complete. Every
visited instruction is marked, so `fuel` beyond the size of the program is never used. -/
def follow (program : Program) (place : Nat) (before after : Option Char) :
    (fuel : Nat) → Nat → Slots → Front → Front
  | 0, _, _, front => front
  | fuel + 1, number, slots, front =>
    if front.visited.getD number true then front
    else
      let front := { front with visited := front.visited.set! number true }
      match program.getD number .done with
      | .take _ _ | .done => { front with ways := front.ways.push ⟨number, slots⟩ }
      | .check assertion next =>
        if assertion.holds before after then
          follow program place before after fuel next slots front
        else front
      | .fork first second =>
        let front := follow program place before after fuel first slots front
        follow program place before after fuel second slots front
      | .save slot next =>
        follow program place before after fuel next (slots.set! slot (some place)) front

/-- The front without ways. -/
def emptyFront (program : Program) : Front :=
  ⟨#[], Array.replicate program.size false⟩

/-- Moves the ways over a character, best first. The first complete way is the match, and
the ways behind it are dropped. -/
def advance (program : Program) (place : Nat) (c : Option Char) (after : Option Char) :
    List Way → Front → Option Slots → Front × Option Slots
  | [], front, found => (front, found)
  | way :: ways, front, found =>
    match program.getD way.number .done with
    | .done => (front, some way.slots)
    | .take set next =>
      let front :=
        if c.any set.contains then
          follow program (place + 1) c after (program.size + 1) next way.slots front
        else front
      advance program place c after ways front found
    | _ => advance program place c after ways front found

/-- Searches from a place on. A new way starts at every place, behind the others, until a
match is found. -/
def searchFrom (program : Program) (start slotCount : Nat) :
    (place : Nat) → (before : Option Char) → Text → Front → Option Slots → Option Slots
  | place, before, text, front, found =>
    let front :=
      if found.isSome then front
      else
        follow program place before text.head? (program.size + 1) start
          (Array.replicate slotCount none) front
    match text with
    | [] => (advance program place none none front.ways.toList (emptyFront program) found).2
    | c :: rest =>
      let (next, found) :=
        advance program place (some c) rest.head? front.ways.toList (emptyFront program) found
      if found.isSome && next.ways.isEmpty then found
      else searchFrom program start slotCount (place + 1) (some c) rest next found

/-- The leftmost match in a text that stands behind a character or at the start: where each
group begins and ends, counted in characters. -/
def search? (program : Program) (start groups : Nat) (before : Option Char) (text : Text) :
    Option Slots :=
  searchFrom program start (2 * groups) 0 before text (emptyFront program) none

end Program

end Stencil
