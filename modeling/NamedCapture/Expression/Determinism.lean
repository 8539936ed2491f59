import NamedCapture.Expression.Program
import NamedCapture.Unicode.Utf8

/-!
Contract: the programs that never have to choose.

A program is deterministic when, wherever it stands, the next byte of the
subject decides which instruction takes it, and no instruction can be reached in
two ways before that byte is taken. Such a program can record its captures in
one pass.

Owns: the instructions reached without taking a character, and the test.

Does not own: the execution of a program.
-/

namespace NamedCapture

namespace Instruction

/-- The ranges of first bytes of the characters that an instruction takes. -/
def leads : Instruction → List Unicode.ByteRange
  | .character expected =>
      (Unicode.ByteProduct.ofRange expected.toNat expected.toNat).filterMap
        List.head?
  | .set members =>
      (Unicode.ByteProduct.ofBoundaries members.boundaries).filterMap List.head?
  | _ => []

def consumes : Instruction → Bool
  | .character _ => true
  | .set _ => true
  | _ => false

/-- The addresses that an instruction at an address leads to without taking a
character, the preferred one first. -/
def successors (address : Nat) : Instruction → List Nat
  | .character _ => []
  | .set _ => []
  | .assertion _ => [address + 1]
  | .split preferred other => [preferred, other]
  | .jump target => [target]
  | .save _ => [address + 1]
  | .accept => []

end Instruction

namespace Program

/-- Whether any two of the ranges of two lists have a byte in common. -/
def overlap (left right : List Unicode.ByteRange) : Bool :=
  left.any fun first => right.any fun second =>
    first.first ≤ second.last && second.first ≤ first.last

/-- Whether the addresses still to be followed reach no address twice and no two
instructions that take the same byte. `reached` are the addresses followed so
far and `taken` the bytes taken there. Every address is followed at most once,
which bounds the number of steps. -/
def reachesOnce
    (program : Program) :
    Nat → (reached : List Nat) → (taken : List Unicode.ByteRange) →
      List Nat → Bool
  | 0, _, _, _ => false
  | _ + 1, _, _, [] => true
  | count + 1, reached, taken, address :: addresses =>
      if reached.contains address then
        false
      else
        match program.code[address]? with
        | none => false
        | some instruction =>
            let leads := instruction.leads
            !overlap leads taken &&
              reachesOnce program count (address :: reached) (leads ++ taken)
                (instruction.successors address ++ addresses)

/-- Whether the program never has to choose: neither at its start nor after any
character. -/
def isDeterministic (program : Program) : Bool :=
  let bound := program.code.size + 1
  let starts :=
    0 :: (program.code.toList.zipIdx.filter (·.1.consumes)).map (·.2 + 1)
  starts.all fun start => program.reachesOnce bound [] [] [start]

end Program

end NamedCapture
