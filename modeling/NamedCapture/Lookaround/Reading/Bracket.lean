import NamedCapture.Lookaround.Reading.Escape

/-!
Contract: the extent of a character class in the dialect with lookaround.

A class is kept as text for the dialect without lookaround, with its escapes
written again.

Owns: where a class ends.

Does not own: what it contains.
-/

namespace NamedCapture.Lookaround

/-- The text of the rest of a class with `depth` brackets open, and the text
after the class. Escapes are written again for the dialect without lookaround.
Every turn takes at least one character, so the length of the text bounds their
number. -/
def readClassFrom
    (flags : Flags) :
    Nat → Nat → Text → Except String (Text × Text)
  | 0, _, _ => .error "a class is not closed"
  | _ + 1, _, [] => .error "a class is not closed"
  | count + 1, depth, '\\' :: rest =>
      match readEscape flags true rest with
      | .error error => .error error
      | .ok (escape, remaining) =>
          let written? : Option Text :=
            match escape with
            | .node (.literal value _) =>
                some (if Primitive.isMeta value then ['\\', value] else [value])
            | .node (.classText text _) => some text
            | _ => none
          match written? with
          | none => .error "a class holds a condition"
          | some written =>
              (readClassFrom flags count depth remaining).map
                fun (text, after) => (written ++ text, after)
  | count + 1, depth, '[' :: rest =>
      (readClassFrom flags count (depth + 1) rest).map
        fun (text, after) => ('[' :: text, after)
  | count + 1, depth, ']' :: rest =>
      if depth ≤ 1 then
        .ok ([']'], rest)
      else
        (readClassFrom flags count (depth - 1) rest).map
          fun (text, after) => (']' :: text, after)
  | count + 1, depth, character :: rest =>
      (readClassFrom flags count depth rest).map
        fun (text, after) => (character :: text, after)

/-- The text of a class from the text after its opening bracket, and the text
after the class. A closing bracket right at the start, or right after a caret
there, does not close it. -/
def readClass (flags : Flags) (text : Text) : Except String (Text × Text) :=
  let (caret, afterCaret) : Text × Text :=
    match text with
    | '^' :: rest => (['^'], rest)
    | _ => ([], text)
  let (bracket, body) : Text × Text :=
    match afterCaret with
    | ']' :: rest => ([']'], rest)
    | _ => ([], afterCaret)
  (readClassFrom flags (body.length + 1) 1 body).map
    fun (written, after) => (['['] ++ caret ++ bracket ++ written, after)

end NamedCapture.Lookaround
