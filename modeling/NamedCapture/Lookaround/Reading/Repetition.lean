import NamedCapture.Lookaround.Reading.Escape

/-!
Contract: repetitions in the dialect with lookaround.

A brace that does not open a repetition is literal.

Owns: the bounds, the marks after them, and the nodes that may be repeated.

Does not own: what is repeated.
-/

namespace NamedCapture.Lookaround

/-- The bounds written after an opening brace, and the text after its closing
brace. A missing lower bound is zero. -/
def readBounds?
    (flags : Flags)
    (text : Text) :
    Option (Nat × Option Nat × Text) := do
  let visible ← (flags.skip text).toOption
  let (least, afterLeast) ←
    match visible with
    | ',' :: _ => some (0, visible)
    | _ => readCount? visible
  match ← (flags.skip afterLeast).toOption with
  | '}' :: rest => some (least, some least, rest)
  | ',' :: afterComma =>
      let bound ← (flags.skip afterComma).toOption
      let (most, afterMost) : Option Nat × Text :=
        match readCount? bound with
        | some (most, rest) =>
            (if most = greatestCount then none else some most, rest)
        | none => (none, bound)
      match ← (flags.skip afterMost).toOption with
      | '}' :: rest => some (least, most, rest)
      | _ => none
  | _ => none

def Node.isRepeatable : Node → Bool
  | .look _ _ _ => false
  | .empty => false
  | .place _ => false
  | _ => true

/-- A node with the repetition that follows it, if any, and the text after
that. A question mark makes it prefer fewer copies, or more when the greed flag
is on; a plus sign after that makes it final. -/
def readRepetition
    (flags : Flags)
    (node : Node)
    (text : Text) :
    Except String (Node × Text) := do
  let visible ← flags.skip text
  let bounds? : Option (Nat × Option Nat × Text) :=
    match visible with
    | '?' :: rest => some (0, some 1, rest)
    | '*' :: rest => some (0, none, rest)
    | '+' :: rest => some (1, none, rest)
    | '{' :: rest => readBounds? flags rest
    | _ => none
  match bounds? with
  | none => .ok (node, visible)
  | some (least, most, afterBounds) =>
      if node.isRepeatable then
        let marks ← flags.skip afterBounds
        let (lazy, afterLazy) : Bool × Text :=
          match marks with
          | '?' :: rest => (true, rest)
          | _ => (false, marks)
        let repeated := Node.repetition node least most (lazy == flags.swapGreed)
        match afterLazy with
        | '+' :: rest => .ok (.atomic repeated, rest)
        | _ => .ok (repeated, afterLazy)
      else
        .error "a repetition has nothing to repeat"

end NamedCapture.Lookaround
