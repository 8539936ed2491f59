import NamedCapture.Matching.Subject

/-!
Contract: all matches of a subject, one after the other.

Owns: where the next search starts, the passing over of an empty match right at
the end of the match before, and the end of the stream after a failure.

Does not own: the search for a single match.
-/

namespace NamedCapture

/-- The stream of matches from a place on, when the match before ended at
`previousEnd`. `find` searches from a place for a match, which is given by its
slots. Every match ends later than the one before or, when it is passed over,
the next search starts later, so the number of places bounds the stream. -/
def successiveFrom
    {ε : Type}
    (size : Nat)
    (find : Nat → Except ε (Option Slots)) :
    Nat → Nat → Option Nat → List (Except ε Slots)
  | 0, _, _ => []
  | count + 1, place, previousEnd =>
      if size < place then
        []
      else
        match find place with
        | .error error => [.error error]
        | .ok none => []
        | .ok (some slots) =>
            let start := (slots.read 0).getD place
            let stop := (slots.read 1).getD place
            if start = stop then
              if previousEnd = some stop then
                successiveFrom size find count (stop + 1) previousEnd
              else
                .ok slots ::
                  successiveFrom size find count (stop + 1) (some stop)
            else
              .ok slots :: successiveFrom size find count stop (some stop)

/-- The stream of all matches in a subject of a given size. -/
def successive
    {ε : Type}
    (size : Nat)
    (find : Nat → Except ε (Option Slots)) :
    List (Except ε Slots) :=
  successiveFrom size find (2 * size + 2) 0 none

end NamedCapture
