import NamedCapture.Error
import NamedCapture.Expression.Search
import NamedCapture.Lookaround.Code

/-!
Contract: execution of code by a backtracking machine with a limit on the number
of times it may go back.

Going back restores everything but the report of linear searches.

Owns: the effect of every instruction, the limit, and the search from a place.

Does not own: which matches are wanted.
-/

namespace NamedCapture.Lookaround

/-- Where the machine is: the next instruction, the place in the subject, the
slots, and for every open atomic part the number of branches that were left to
be tried when it began, innermost first. -/
structure Branch where
  address : Nat
  place : Nat
  slots : Slots
  marks : List Nat
deriving Repr

/-- The machine: where it is, the branches left to be tried, latest first, their
number, and the report of linear searches. -/
structure Machine where
  branch : Branch
  pending : List Branch
  depth : Nat
  report : Report
deriving Repr

/-- What a step or a run of steps came to. -/
inductive Progress where
  | running (machine : Machine)
  | failed (pending : List Branch) (depth : Nat) (report : Report)
  | matched (slots : Slots)
deriving Repr

namespace Machine

def fail (machine : Machine) : Progress :=
  .failed machine.pending machine.depth machine.report

def advance (machine : Machine) (place : Nat) : Progress :=
  .running
    { machine with
      branch :=
        { machine.branch with address := machine.branch.address + 1, place } }

/-- Go on at the next instruction with one slot changed. -/
def write (machine : Machine) (slot : Nat) (value : Option Nat) : Machine :=
  { machine with
    branch :=
      { machine.branch with slots := machine.branch.slots.write slot value } }

def goTo (machine : Machine) (address : Nat) : Machine :=
  { machine with branch := { machine.branch with address } }

/-- Leave a branch that goes on at an address to be tried later. -/
def push (machine : Machine) (address : Nat) : Machine :=
  { machine with
    pending := { machine.branch with address } :: machine.pending
    depth := machine.depth + 1 }

/-- The places of groups in a report, as groups numbered from `first`. -/
def adoptGroups (slots : Slots) (report : Report) (first : Nat) : Nat → Slots
  | 0 => slots
  | count + 1 =>
      let earlier := adoptGroups slots report first count
      let source := 2 * (count + 1)
      let target := 2 * (first + count)
      (earlier.write target (report.read source)).write (target + 1)
        (report.read (source + 1))

/-- Drop branches up to and including the latest one that goes on at an
address. -/
def dropThrough (address : Nat) : List Branch → Nat → List Branch × Nat
  | [], depth => ([], depth)
  | branch :: pending, depth =>
      if branch.address = address then (pending, depth - 1)
      else dropThrough address pending (depth - 1)

def startsAt (subject : Subject) (place : Nat) : Text → Bool
  | [] => true
  | character :: rest =>
      subject.after? place == some character &&
        startsAt subject (place + 1) rest

def textBetween (subject : Subject) (start stop : Nat) : Text :=
  (subject.characters.extract start stop).toList

/-- The slots of a match. A match that is reported to start after its end is
reported to start at its end. -/
def finalSlots (slots : Slots) : Slots :=
  match slots.read 0, slots.read 1 with
  | some start, some stop =>
      if stop < start then slots.write 0 (some stop) else slots
  | _, _ => slots

/-- Carry out one instruction. `origin` is the place where the search
started. -/
def step
    (code : Code)
    (subject : Subject)
    (origin : Nat)
    (machine : Machine) :
    Progress :=
  let address := machine.branch.address
  let place := machine.branch.place
  let slots := machine.branch.slots
  match code.instructions[address]? with
  | none => machine.fail
  | some .any =>
      if place < subject.size then machine.advance (place + 1)
      else machine.fail
  | some .anyButNewLine =>
      match subject.after? place with
      | some character =>
          if character = '\n' then machine.fail
          else machine.advance (place + 1)
      | none => machine.fail
  | some (.text expected) =>
      if startsAt subject place expected then
        machine.advance (place + expected.length)
      else
        machine.fail
  | some (.place condition) =>
      if condition.holds (subject.before? place) (subject.after? place) then
        machine.advance place
      else
        machine.fail
  | some (.split preferred other) =>
      .running ((machine.push other).goTo preferred)
  | some (.jump target) => .running (machine.goTo target)
  | some (.save slot) => (machine.write slot (some place)).advance place
  | some (.clear slot) => (machine.write slot (some 0)).advance place
  | some (.restore slot) => machine.advance ((slots.read slot).getD 0)
  | some (.repetition least most leave counter greedy) =>
      let copies := (slots.read counter).getD 0
      if most = some copies then
        .running (machine.goTo leave)
      else
        let counted := machine.write counter (some (copies + 1))
        if copies < least then counted.advance place
        else if greedy then (counted.push leave).advance place
        else .running ((counted.push (address + 1)).goTo leave)
  | some (.emptyRepetition least leave counter start greedy) =>
      let copies := (slots.read counter).getD 0
      if least < copies ∧ slots.read start = some place then
        machine.fail
      else
        let counted := machine.write counter (some (copies + 1))
        if copies < least then
          counted.advance place
        else
          let started := counted.write start (some place)
          if greedy then (started.push leave).advance place
          else .running ((started.push (address + 1)).goTo leave)
  | some (.back count) =>
      if count ≤ place then machine.advance (place - count) else machine.fail
  | some .reject =>
      let (pending, depth) :=
        dropThrough (address + 1) machine.pending machine.depth
      .failed pending depth machine.report
  | some (.backreference slot) =>
      match slots.read slot, slots.read (slot + 1) with
      | some start, some stop =>
          let expected := textBetween subject start stop
          if startsAt subject place expected then
            machine.advance (place + expected.length)
          else
            machine.fail
      | _, _ => machine.fail
  | some (.tookPart slot) =>
      if (slots.read slot).isSome then machine.advance place else machine.fail
  | some .beginAtomic =>
      let marks := machine.depth :: machine.branch.marks
      ({ machine with branch := { machine.branch with marks } } : Machine).advance
        place
  | some .commit =>
      match machine.branch.marks with
      | [] => machine.advance place
      | depth :: marks =>
          ({ machine with
             branch := { machine.branch with marks }
             pending := machine.pending.drop (machine.depth - depth)
             depth } : Machine).advance place
  | some (.delegate program style first count) =>
      let found? := program.matchAt subject place
      let report :=
        if count = 0 then machine.report
        else machine.report.afterSearch style count found?
      match found? with
      | some found =>
          let slots := adoptGroups slots report first count
          ({ machine with
             branch := { machine.branch with slots }
             report } : Machine).advance ((found.read 1).getD place)
      | none => ({ machine with report } : Machine).fail
  | some .searchStart =>
      if place = origin then machine.advance place else machine.fail
  | some .accept => .matched (finalSlots slots)

/-- Carry out instructions until a match or a failure. -/
def runStraight
    (code : Code)
    (subject : Subject)
    (origin : Nat) :
    Nat → Machine → Progress
  | 0, machine => machine.fail
  | count + 1, machine =>
      match machine.step code subject origin with
      | .running following => runStraight code subject origin count following
      | ended => ended

end Machine

namespace Code

/-- How often a machine may go back during one search. -/
def backtrackLimit : Nat := 1000000

/-- How often an instruction can be carried out for each time the instructions
around it are, without going back. Only an instruction that leads to an earlier
one makes a difference: its copies either take a character or are counted. -/
def rounds (size address : Nat) : Instruction → Nat
  | .split preferred other =>
      if preferred ≤ address ∨ other ≤ address then size + 2 else 1
  | .jump target => if target ≤ address then size + 2 else 1
  | .repetition least most _ _ _ => max least (most.getD 0) + 2
  | .emptyRepetition least _ _ _ _ => least + 3
  | _ => 1

/-- A bound on the number of instructions carried out without going back. -/
def straightBound (code : Code) (size : Nat) : Nat :=
  code.instructions.toList.zipIdx.foldl
    (fun bound (instruction, address) =>
      bound * rounds size address instruction)
    (code.instructions.size + 1)

/-- Run a machine, going back at most `left` more times. -/
def runFrom
    (code : Code)
    (subject : Subject)
    (origin bound : Nat) :
    Nat → Machine → Except EngineError (Option Slots)
  | left, machine =>
      match machine.runStraight code subject origin bound with
      | .running _ => .ok none
      | .matched slots => .ok (some slots)
      | .failed [] _ _ => .ok none
      | .failed (branch :: pending) depth report =>
          match left with
          | 0 => .error .exhausted
          | left + 1 =>
              runFrom code subject origin bound left
                ⟨branch, pending, depth - 1, report⟩

/-- The first match that starts at a place or later. -/
def search
    (code : Code)
    (subject : Subject)
    (place : Nat) :
    Except EngineError (Option Slots) :=
  code.runFrom subject place (code.straightBound subject.size) backtrackLimit
    ⟨⟨0, place, Array.replicate code.slots none, []⟩, [], 0, .blank⟩

end Code

end NamedCapture.Lookaround
