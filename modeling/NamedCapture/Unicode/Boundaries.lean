/-!
Contract: sets of characters given by the code points at which membership
changes.

A list of increasing code points stands for the set that begins at the first,
ends before the second, begins again at the third, and so on.

Owns: the membership test, the set of a list of code points, the combination of
two sets, and the ranges a set consists of.

Does not own: the data of any property.
-/

namespace NamedCapture.Unicode

/-- The code points at which membership in a set changes, in increasing
order. -/
abbrev Boundaries := List Nat

namespace Boundaries

/-- Whether a code point is in the set, given whether everything before the
first boundary is. -/
def containsFrom (inside : Bool) (code : Nat) : Boundaries → Bool
  | [] => inside
  | boundary :: later =>
      if code < boundary then inside else containsFrom (!inside) code later

def containsCode (boundaries : Boundaries) (code : Nat) : Bool :=
  containsFrom false code boundaries

def contains (boundaries : Boundaries) (character : Char) : Bool :=
  boundaries.containsCode character.toNat

/-- The first number that is too great for a code point. -/
def codeLimit : Nat := 0x110000

def everything : Boundaries := [0, codeLimit]

/-- One more change of membership, before all others or at the first of them:
two changes at one place cancel. -/
def change (boundary : Nat) : Boundaries → Boundaries
  | [] => [boundary]
  | next :: later =>
      if next = boundary then later else boundary :: next :: later

def ofCodes : List Nat → Boundaries
  | [] => []
  | code :: codes =>
      let later := ofCodes codes
      if later.head? = some code then later
      else code :: change (code + 1) later

/-- The boundaries of a set whose membership is decided by the membership in two
others. Each boundary is marked by whether it is one of the left set; the flags
say whether the code points right before the first boundary are in the left set,
in the right one, and in the result. -/
def combineFrom
    (decision : Bool → Bool → Bool)
    (inLeft inRight inside : Bool) :
    List (Nat × Bool) → Boundaries
  | [] => []
  | (boundary, ofLeft) :: marked =>
      let inLeft := if ofLeft then !inLeft else inLeft
      let inRight := if ofLeft then inRight else !inRight
      let following := decision inLeft inRight
      let later := combineFrom decision inLeft inRight following marked
      if following = inside then later else change boundary later

/-- The set whose membership is decided by the membership in two others. What is
in neither of them is not in it. -/
def combine
    (decision : Bool → Bool → Bool)
    (left right : Boundaries) :
    Boundaries :=
  combineFrom decision false false false
    (List.merge (left.map (·, true)) (right.map (·, false))
      fun first second => first.1 ≤ second.1)

/-- The ranges a set consists of, each by its first and its last code point. -/
def ranges : Boundaries → List (Nat × Nat)
  | [] => []
  | [first] => [(first, codeLimit - 1)]
  | first :: stop :: later => (first, stop - 1) :: ranges later

end Boundaries

end NamedCapture.Unicode
