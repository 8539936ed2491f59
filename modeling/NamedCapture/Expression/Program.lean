import NamedCapture.Expression.Basic

/-!
Contract: expressions as instruction lists for a search that prefers the first
way to match.

Owns: the instructions and the code of each expression.

Does not own: the execution of a program.
-/

namespace NamedCapture

/-- One step of a program. Addresses count instructions from the start of the
program. -/
inductive Instruction where
  | character (character : Char)
  | set (set : CharSet)
  | assertion (assertion : Assertion)
  /-- Go on at either address; the first one is preferred. -/
  | split (preferred other : Nat)
  | jump (target : Nat)
  /-- Remember the place in a slot. -/
  | save (slot : Nat)
  | accept
deriving Repr

namespace Expression

/-- A choice between going on at two addresses, in the given order when greedy
and in the opposite order when not. -/
def splitBy (greedy : Bool) (again out : Nat) : Instruction :=
  if greedy then .split again out else .split out again

/-- The code of a number of copies, one after the other. `emitAt` is the code
of one copy at an address. -/
def emitCopies
    (emitAt : Nat → List Instruction) :
    Nat → Nat → List Instruction
  | 0, _ => []
  | count + 1, address =>
      let code := emitAt address
      code ++ emitCopies emitAt count (address + code.length)

/-- The code of a number of optional copies, each inside the one before, that
all leave at the same place. -/
def emitOptional
    (emitAt : Nat → List Instruction)
    (greedy : Bool) :
    Nat → Nat → List Instruction
  | 0, _ => []
  | count + 1, address =>
      let code := emitAt (address + 1)
      let inner := emitOptional emitAt greedy count (address + 1 + code.length)
      let leave := address + 1 + code.length + inner.length
      splitBy greedy (address + 1) leave :: code ++ inner

def emitPlus
    (emitAt : Nat → List Instruction)
    (greedy : Bool)
    (address : Nat) :
    List Instruction :=
  let code := emitAt address
  code ++ [splitBy greedy address (address + code.length + 1)]

/-- The code of any number of copies. A body that may match the empty text is
entered through an optional loop of one or more copies, which keeps the order
of preference. -/
def emitStar
    (emitAt : Nat → List Instruction)
    (nullable greedy : Bool)
    (address : Nat) :
    List Instruction :=
  if nullable then
    let loop := emitPlus emitAt greedy (address + 1)
    splitBy greedy (address + 1) (address + 1 + loop.length) :: loop
  else
    let code := emitAt (address + 1)
    splitBy greedy (address + 1) (address + 2 + code.length) ::
      code ++ [.jump address]

/-- The code of an expression at an address. It is left at its end. -/
def emit : Expression → Nat → List Instruction
  | .empty, _ => []
  | .character expected, _ => [.character expected]
  | .set members, _ => [.set members]
  | .assertion condition, _ => [.assertion condition]
  | .sequence first second, address =>
      let code := first.emit address
      code ++ second.emit (address + code.length)
  | .choice preferred other, address =>
      let code := preferred.emit (address + 1)
      let otherAddress := address + 2 + code.length
      let otherCode := other.emit otherAddress
      .split (address + 1) otherAddress ::
        code ++ .jump (otherAddress + otherCode.length) :: otherCode
  | .repetition body least most greedy, address =>
      match least, most with
      | 0, none =>
          emitStar (fun place => body.emit place) body.isNullable greedy address
      | least + 1, none =>
          let copies := emitCopies (fun place => body.emit place) least address
          copies ++
            emitPlus (fun place => body.emit place) greedy
              (address + copies.length)
      | least, some most =>
          let copies := emitCopies (fun place => body.emit place) least address
          copies ++
            emitOptional (fun place => body.emit place) greedy (most - least)
              (address + copies.length)
  | .capture index body, address =>
      .save (2 * index) ::
        body.emit (address + 1) ++ [.save (2 * index + 1)]

end Expression

/-- A compiled expression. -/
structure Program where
  code : Array Instruction
  /-- Number of capture groups a match reports, the whole match included. -/
  groups : Nat
deriving Repr

namespace Program

/-- The program of an expression, which saves the whole match as group zero. -/
def ofExpression (expression : Expression) : Program :=
  { code :=
      ((Expression.capture 0 expression).emit 0 ++ [Instruction.accept]).toArray
    groups := expression.captureIndices.foldl max 0 + 1 }

end Program

end NamedCapture
