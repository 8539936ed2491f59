import NamedCapture.Expression.Footprint
import NamedCapture.Expression.Reading.Pattern
import NamedCapture.Lookaround.Reading.Pattern
import NamedCapture.Lookaround.Rendering
import NamedCapture.Lookaround.Report

/-!
Contract: nodes as code for a backtracking machine.

Undemanding parts are left to a linear search wherever that cannot change what
the machine may try: a part of constant size at the start or the end of a
sequence, or a part after which no demanding one follows.

Owns: the instructions, the code of each node, and the choice of the parts left
to a linear search.

Does not own: the execution of the code.
-/

namespace NamedCapture.Lookaround

/-- One step of the machine. Addresses count instructions from the start of the
code; slots hold places, or the counters of repetitions. -/
inductive Instruction where
  | any
  | anyButNewLine
  | text (expected : Text)
  | place (condition : Assertion)
  /-- Go on at the first address, and at the second one after a failure. -/
  | split (preferred other : Nat)
  | jump (target : Nat)
  /-- Remember the place in a slot. -/
  | save (slot : Nat)
  /-- Set a counter to zero. -/
  | clear (slot : Nat)
  /-- Go back to the place in a slot. -/
  | restore (slot : Nat)
  /-- Begin the next copy of a repetition, or leave it. -/
  | repetition
      (least : Nat)
      (most : Option Nat)
      (leave counter : Nat)
      (greedy : Bool)
  /-- The same without an upper bound, for a body that may take nothing; such a
  copy, beyond the lower bound, fails. -/
  | emptyRepetition (least leave counter start : Nat) (greedy : Bool)
  /-- Go back a number of characters. -/
  | back (count : Nat)
  /-- A lookaround matched that must not match: drop what it left to be tried,
  and fail. -/
  | reject
  | backreference (slot : Nat)
  /-- The group that starts in a slot must have taken part. -/
  | tookPart (slot : Nat)
  /-- What is left to be tried from here on is dropped at the next `commit`. -/
  | beginAtomic
  | commit
  /-- Leave some groups, starting with number `first`, to a linear search that
  starts at this place. -/
  | delegate (program : Program) (style : ReportStyle) (first count : Nat)
  | searchStart
  | accept
deriving Repr

/-- The code of a node, and the next slot that is not in use. -/
abbrev Emitted := Except String (List Instruction × Nat)

/-- A choice between going on at two addresses, in the given order when greedy
and in the opposite order when not. -/
def splitBy (greedy : Bool) (again out : Nat) : Instruction :=
  if greedy then .split again out else .split out again

/-- Nodes in a row, the first group of which has number `first`, left to a
linear search. -/
def delegateNodes (first : Nat) (nodes : List Node) :
    Except String (List Instruction) :=
  match nodes with
  | [] => .ok []
  | _ =>
      match Node.literalTexts? nodes with
      | some text => .ok [.text text]
      | none =>
          match Expression.read {} (Node.renderTogether nodes) with
          | .error error => .error error
          | .ok expression =>
              if expression.fitsIn Expression.defaultSizeLimit then
                let program := Program.ofExpression expression
                .ok
                  [.delegate program (.ofExpression expression program) first
                    (Node.totalGroupCount nodes)]
              else
                .error "a part is too great"

/-- The number of nodes at the start of a row that are of constant size and
undemanding. -/
def constantStart : List Node → Nat
  | [] => 0
  | node :: nodes =>
      if node.isConstant && !node.isDemanding then constantStart nodes + 1
      else 0

/-- The number of nodes at the end of a row that are undemanding and, if asked
for, of constant size; and whether that is the whole row. -/
def easyEnd (constant : Bool) : List Node → Nat × Bool
  | [] => (0, true)
  | node :: nodes =>
      let (count, whole) := easyEnd constant nodes
      if whole && (!constant || node.isConstant) && !node.isDemanding then
        (count + 1, true)
      else
        (count, false)

/-- The code that begins, continues and leaves a repetition around the code of
its body, which starts at the address after `address`. The repetition has the
slots `slot` and `slot + 1` to itself. -/
def repetitionHead
    (least : Nat)
    (most : Option Nat)
    (greedy bodyMayBeEmpty : Bool)
    (leave slot : Nat) :
    Instruction :=
  if most.isNone && bodyMayBeEmpty then
    .emptyRepetition least leave slot (slot + 1) greedy
  else
    .repetition least most leave slot greedy

/-- The code of the body of a lookaround, from the place it looks from. Behind a
place it goes back as many characters as the body takes, which must be known.
`emitAt` is the code of the body at an address. -/
def emitLookBody
    (behind : Bool)
    (body : Node)
    (emitAt : Nat → Emitted)
    (address : Nat) :
    Emitted :=
  if behind then
    if body.isConstant then do
      let (code, next) ← emitAt (address + 1)
      .ok (.back body.leastSize :: code, next)
    else
      .error "a lookbehind varies in size"
  else
    emitAt address

mutual

/-- The code of a node at an address. `hard` says whether demanding parts follow,
`first` is the number of the next group, and `slot` is the next slot that is not
in use. -/
def emit
    (hard : Bool)
    (first address slot : Nat)
    (node : Node) :
    Emitted :=
  let easy : Emitted :=
    (delegateNodes first [node]).map fun code => (code, slot)
  if !hard && !node.isDemanding then
    easy
  else
    match node with
    | .empty => .ok ([], slot)
    | .any true => .ok ([.any], slot)
    | .any false => .ok ([.anyButNewLine], slot)
    | .literal value caseInsensitive =>
        if caseInsensitive then easy else .ok ([.text [value]], slot)
    | .classText _ _ => easy
    | .place condition => .ok ([.place condition], slot)
    | .sequence parts => do
        let before := constantStart parts
        let firstInner := first + Node.totalGroupCount (parts.take before)
        let remaining := parts.drop before
        let (after, _) := easyEnd hard remaining
        let middle := remaining.length - after
        let firstAfter :=
          firstInner + Node.totalGroupCount (remaining.take middle)
        let start ← delegateNodes first (parts.take before)
        let (inner, next) ←
          emitMiddle firstInner (address + start.length) slot before
            middle parts
        let finish ← delegateNodes firstAfter (remaining.drop middle)
        .ok (start ++ inner ++ finish, next)
    | .choice branches => emitBranches hard first address slot branches
    | .group body => do
        let (code, next) ←
          emit hard (first + 1) (address + 1) slot body
        .ok
          ([.save (2 * first)] ++ code ++ [.save (2 * first + 1)], next)
    | .look behind false bodies =>
        emitLookEach behind first address slot bodies
    | .look behind true bodies =>
        emitRejectEach behind first address slot bodies
    | .repetition body least most greedy => do
        let hardBody := hard || node.isDemanding
        if least = 0 ∧ most = some 1 then
          let (code, next) ← emit hard first (address + 1) slot body
          .ok
            (splitBy greedy (address + 1) (address + 1 + code.length) :: code,
              next)
        else if most.isNone ∧ least = 0 ∧ 0 < body.leastSize then
          let (code, next) ← emit hardBody first (address + 1) slot body
          .ok
            ([splitBy greedy (address + 1) (address + 2 + code.length)] ++
              code ++ [.jump address], next)
        else if most.isNone ∧ least = 1 ∧ 0 < body.leastSize then
          let (code, next) ← emit hardBody first address slot body
          .ok
            (code ++ [splitBy greedy address (address + code.length + 1)], next)
        else
          let (code, next) ←
            emit hardBody first (address + 2) (slot + 2) body
          let leave := address + 3 + code.length
          .ok
            ([.clear slot,
                repetitionHead least most greedy (body.leastSize == 0) leave
                  slot] ++
              code ++ [.jump (address + 1)], next)
    | .backreference target => .ok ([.backreference (2 * target)], slot)
    | .tookPart target => .ok ([.tookPart (2 * target)], slot)
    | .conditional condition consequence alternative => do
        let (test, afterTest) ←
          emit hard first (address + 2) slot condition
        let firstInner := first + condition.groupCount
        let inner := address + 3 + test.length
        let (code, afterCode) ← emit hard firstInner inner afterTest consequence
        let other := inner + code.length + 1
        let (otherCode, last) ←
          emit hard (firstInner + consequence.groupCount) other afterCode
            alternative
        .ok
          ([.beginAtomic, .split (address + 2) other] ++ test ++ .commit ::
            code ++ .jump (other + otherCode.length) :: otherCode, last)
    | .atomic body => do
        let (code, next) ← emit false first (address + 1) slot body
        .ok ([.beginAtomic] ++ code ++ [.commit], next)
    | .keepOut => .ok ([.save 0], slot)
    | .searchStart => .ok ([.searchStart], slot)

/-- The code of the `count` nodes of a row after the first `skipped`. Demanding
parts may follow any of them. -/
def emitMiddle
    (first address slot : Nat)
    (skipped count : Nat) :
    List Node → Emitted
  | [] => .ok ([], slot)
  | node :: nodes =>
      match skipped, count with
      | skipped + 1, count =>
          emitMiddle first address slot skipped count nodes
      | 0, 0 => .ok ([], slot)
      | 0, count + 1 => do
          let (code, next) ← emit true first address slot node
          let (rest, last) ←
            emitMiddle (first + node.groupCount)
              (address + code.length) next 0 count nodes
          .ok (code ++ rest, last)

def emitBranches
    (hard : Bool)
    (first address slot : Nat) :
    List Node → Emitted
  | [] => .ok ([], slot)
  | node :: nodes =>
      if nodes.isEmpty then
        emit hard first address slot node
      else do
        let (code, next) ← emit hard first (address + 1) slot node
        let other := address + 2 + code.length
        let (rest, last) ←
          emitBranches hard (first + node.groupCount) other next nodes
        .ok
          ([.split (address + 1) other] ++ code ++
            .jump (other + rest.length) :: rest, last)

/-- The code of a lookaround that must match one of its bodies. -/
def emitLookEach
    (behind : Bool)
    (first address slot : Nat) :
    List Node → Emitted
  | [] => .ok ([], slot)
  | node :: nodes =>
      if nodes.isEmpty then do
        let (code, next) ←
          emitLookBody behind node
            (fun place => emit false first place (slot + 1) node)
            (address + 1)
        .ok ([.save slot] ++ code ++ [.restore slot], next)
      else do
        let (code, next) ←
          emitLookBody behind node
            (fun place => emit false first place (slot + 1) node)
            (address + 2)
        let other := address + 4 + code.length
        let (rest, last) ←
          emitLookEach behind (first + node.groupCount) other next nodes
        .ok
          ([.split (address + 1) other, .save slot] ++ code ++
            .restore slot :: .jump (other + rest.length) :: rest, last)

/-- The code of a lookaround that must match none of its bodies. -/
def emitRejectEach
    (behind : Bool)
    (first address slot : Nat) :
    List Node → Emitted
  | [] => .ok ([], slot)
  | node :: nodes => do
      let (code, next) ←
        emitLookBody behind node
          (fun place => emit false first place slot node) (address + 1)
      let other := address + 2 + code.length
      let (rest, last) ←
        emitRejectEach behind (first + node.groupCount) other next nodes
      .ok
        ([.split (address + 1) other] ++ code ++ .reject :: rest, last)

end

/-- Code for the machine, with the number of slots and of capture groups, the
whole match included. -/
structure Code where
  instructions : Array Instruction
  slots : Nat
  groups : Nat
deriving Repr

/-- The code that finds a node anywhere from a place on: it passes over as few
characters as it can, and saves the whole match as group zero. -/
def Code.ofNode (node : Node) : Except String Code :=
  let groups := node.groupCount + 1
  match emit true 0 3 (2 * groups) (.group node) with
  | .error error => .error error
  | .ok (code, slots) =>
      .ok
        { instructions :=
            ([Instruction.split 3 1, .any, .jump 0] ++ code ++
              [Instruction.accept]).toArray
          slots
          groups }

end NamedCapture.Lookaround
