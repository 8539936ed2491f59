import NamedCapture.Expression.Program
import NamedCapture.Matching.Successive

/-!
Contract: execution of a program by backtracking that never visits the same
instruction at the same place twice.

A visit that led nowhere once leads nowhere again, so a second visit is cut
off; the first way to match, in order of preference, is the one found.

Owns: the visits, the match at a place, and the leftmost match from a place on.

Does not own: which matches are wanted.
-/

namespace NamedCapture.Program

/-- A way of matching that is still to be tried. -/
structure Thread where
  address : Nat
  place : Nat
  slots : Slots
deriving Repr

/-- The instruction and place pairs that were visited. -/
abbrev Visited := Array Bool

def visitCount (program : Program) (subject : Subject) : Nat :=
  program.code.size * (subject.size + 1)

def unvisited (program : Program) (subject : Subject) : Visited :=
  Array.replicate (program.visitCount subject) false

/-- The threads that one step of a thread leads to, the preferred one first, or
the slots of a match. -/
def step
    (program : Program)
    (subject : Subject)
    (thread : Thread) :
    Except Slots (List Thread) :=
  let next := thread.address + 1
  match program.code[thread.address]? with
  | none => .ok []
  | some (.character expected) =>
      match subject.after? thread.place with
      | some character =>
          if character = expected then
            .ok [⟨next, thread.place + 1, thread.slots⟩]
          else
            .ok []
      | none => .ok []
  | some (.set set) =>
      match subject.after? thread.place with
      | some character =>
          if set.contains character then
            .ok [⟨next, thread.place + 1, thread.slots⟩]
          else
            .ok []
      | none => .ok []
  | some (.assertion assertion) =>
      if assertion.holds (subject.before? thread.place)
          (subject.after? thread.place) then
        .ok [⟨next, thread.place, thread.slots⟩]
      else
        .ok []
  | some (.split preferred other) =>
      .ok
        [⟨preferred, thread.place, thread.slots⟩,
          ⟨other, thread.place, thread.slots⟩]
  | some (.jump target) => .ok [⟨target, thread.place, thread.slots⟩]
  | some (.save slot) =>
      .ok
        [⟨next, thread.place, thread.slots.write slot (some thread.place)⟩]
  | some .accept => .error thread.slots

/-- Try threads in order until one matches; yields the slots of the match and
the pairs visited. Every pair is expanded at most once and into at most two
threads, which bounds the number of tries. -/
def explore
    (program : Program)
    (subject : Subject) :
    Nat → Visited → List Thread → Option Slots × Visited
  | 0, visited, _ => (none, visited)
  | _ + 1, visited, [] => (none, visited)
  | count + 1, visited, thread :: threads =>
      let key := thread.address * (subject.size + 1) + thread.place
      if visited.getD key true then
        explore program subject count visited threads
      else
        let visited := visited.setIfInBounds key true
        match program.step subject thread with
        | .error slots => (some slots, visited)
        | .ok following =>
            explore program subject count visited (following ++ threads)

/-- A match that starts at a place, given what was visited before. -/
def matchFrom
    (program : Program)
    (subject : Subject)
    (visited : Visited)
    (place : Nat) :
    Option Slots × Visited :=
  program.explore subject (2 * program.visitCount subject + 2) visited
    [⟨0, place, Slots.unset program.groups⟩]

def matchAt
    (program : Program)
    (subject : Subject)
    (place : Nat) :
    Option Slots :=
  (program.matchFrom subject (program.unvisited subject) place).1

/-- The leftmost match that starts at one of a number of places. What was
visited without success for an earlier start is not visited again. -/
def searchFrom
    (program : Program)
    (subject : Subject) :
    Nat → Visited → Nat → Option Slots
  | 0, _, _ => none
  | count + 1, visited, place =>
      match program.matchFrom subject visited place with
      | (some slots, _) => some slots
      | (none, visited) => searchFrom program subject count visited (place + 1)

/-- The leftmost match that starts at a place or later. -/
def search
    (program : Program)
    (subject : Subject)
    (place : Nat) :
    Option Slots :=
  program.searchFrom subject (subject.size + 1 - place)
    (program.unvisited subject) place

end NamedCapture.Program
