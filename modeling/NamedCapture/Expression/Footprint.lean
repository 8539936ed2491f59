import NamedCapture.Expression.Texts
import NamedCapture.Unicode.Utf8

/-!
Contract: the memory that expressions take once they are compiled.

An expression is compiled into two automata over the bytes of UTF-8. The one
that runs forwards records captures and shares what byte products start with;
the one that runs backwards records no captures and shares nothing else. A limit
holds for either of them. An expression that is a list of texts is looked for
without an automaton and takes none.

Owns: the number of bytes per automaton, and the limit when none is asked for.

Does not own: the automata.
-/

namespace NamedCapture

/-- Bytes of the automata that run forwards and backwards. -/
structure Footprint where
  forward : Nat
  backward : Nat
deriving DecidableEq, Repr

namespace Footprint

def stateSize : Nat := 32

/-- Bytes of one labelled transition in a state that has several. -/
def labelSize : Nat := 8

/-- Bytes of one unlabelled transition in a state that has several. -/
def linkSize : Nat := 4

def both (size : Nat) : Footprint :=
  ⟨size, size⟩

def add (left right : Footprint) : Footprint :=
  ⟨left.forward + right.forward, left.backward + right.backward⟩

def scale (count : Nat) (footprint : Footprint) : Footprint :=
  ⟨count * footprint.forward, count * footprint.backward⟩

/-- Bytes of a set given by its ranges. One state is enough in ASCII; otherwise
there is a state per step through the products of byte ranges. -/
def ofRanges (ranges : List (Nat × Nat)) : Footprint :=
  if ranges.all fun (_, last) => last < 0x80 then
    both (2 * stateSize + labelSize * ranges.length)
  else
    let products :=
      ranges.flatMap fun (first, last) =>
        Unicode.ByteProduct.ofRange first last
    let steps := Unicode.ByteProduct.stepCount [] products
    { forward :=
        2 * stateSize + stateSize * (steps - products.length) +
          labelSize * steps
      backward :=
        2 * stateSize + linkSize * products.length + stateSize * steps }

end Footprint

/-- Bytes of a set. A set of one character is that character. -/
def CharSet.footprint (set : CharSet) : Footprint :=
  match set.ranges with
  | [] => .both Footprint.stateSize
  | [(first, last)] =>
      if first = last then
        .both (Footprint.stateSize * (Char.ofNat first).utf8Size)
      else
        .ofRanges [(first, last)]
  | ranges => .ofRanges ranges

namespace Expression

open Footprint

/-- Bytes of one alternative, given those it would have on its own. A choice
inside a choice adds its alternatives to it. -/
def branchFootprint (branch : Expression) (alone : Footprint) : Footprint :=
  match branch with
  | .choice _ _ =>
      ⟨alone.forward - 2 * stateSize, alone.backward - 2 * stateSize⟩
  | _ => alone.add (both linkSize)

def footprint : Expression → Footprint
  | .empty => both stateSize
  | .character expected => both (stateSize * expected.utf8Size)
  | .set members => members.footprint
  | .assertion _ => both stateSize
  | .sequence first second => first.footprint.add second.footprint
  | .choice preferred other =>
      ((preferred.branchFootprint preferred.footprint).add
        (other.branchFootprint other.footprint)).add (both (2 * stateSize))
  | .repetition body least most _ =>
      let copy := body.footprint
      let split := both (stateSize + 2 * linkSize)
      match least, most with
      | 0, none =>
          if body.isNullable then
            (copy.add (scale 2 split)).add (both stateSize)
          else
            copy.add split
      | least, none => (scale least copy).add split
      | 0, some 1 => (copy.add split).add (both stateSize)
      | least, some most =>
          let start := if least = 0 then both stateSize else scale least copy
          if most ≤ least then start
          else
            (start.add (scale (most - least) (copy.add split))).add
              (both stateSize)
  | .capture _ body =>
      body.footprint.add ⟨2 * stateSize, 0⟩

/-- Bytes of what surrounds every expression: the passing over of characters
before the match, the capture of the whole match, and the end. -/
def frameSize : Nat := 6 * stateSize

/-- The most bytes an automaton may take when no limit is asked for. -/
def defaultSizeLimit : Nat := 10 * 1024 * 1024

/-- Whether an expression can be compiled within a limit. -/
def fitsIn (limit : Nat) (expression : Expression) : Bool :=
  expression.isLiteral ||
    (expression.footprint.forward + frameSize ≤ limit &&
      expression.footprint.backward + frameSize ≤ limit)

end Expression

end NamedCapture
