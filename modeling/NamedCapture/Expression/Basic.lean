import NamedCapture.Expression.Assertion

/-!
Contract: regular expressions with numbered captures.

Owns: the expressions, whether one can match nothing or nothing but nothing,
the captures it contains, and the simplification of repetitions.

Does not own: notation, or search.
-/

namespace NamedCapture

/-- A regular expression with numbered captures. -/
inductive Expression where
  | empty
  | character (character : Char)
  | set (set : CharSet)
  | assertion (assertion : Assertion)
  | sequence (first second : Expression)
  | choice (preferred other : Expression)
  /-- At least `least` and, if given, at most `most` copies; a greedy one
  prefers more. -/
  | repetition
      (body : Expression)
      (least : Nat)
      (most : Option Nat)
      (greedy : Bool)
  | capture (index : Nat) (body : Expression)
deriving DecidableEq, Repr

namespace Expression

/-- Whether the expression may match the empty text. -/
def isNullable : Expression → Bool
  | .empty => true
  | .character _ => false
  | .set _ => false
  | .assertion _ => true
  | .sequence first second => first.isNullable && second.isNullable
  | .choice preferred other => preferred.isNullable || other.isNullable
  | .repetition body least _ _ => least == 0 || body.isNullable
  | .capture _ body => body.isNullable

/-- Whether the expression matches nothing but the empty text. -/
def isOnlyEmpty : Expression → Bool
  | .empty => true
  | .character _ => false
  | .set _ => false
  | .assertion _ => true
  | .sequence first second => first.isOnlyEmpty && second.isOnlyEmpty
  | .choice preferred other => preferred.isOnlyEmpty && other.isOnlyEmpty
  | .repetition body _ most _ => most == some 0 || body.isOnlyEmpty
  | .capture _ body => body.isOnlyEmpty

/-- The numbers of the captures in the expression, left to right. -/
def captureIndices : Expression → List Nat
  | .empty => []
  | .character _ => []
  | .set _ => []
  | .assertion _ => []
  | .sequence first second => first.captureIndices ++ second.captureIndices
  | .choice preferred other => preferred.captureIndices ++ other.captureIndices
  | .repetition body _ _ _ => body.captureIndices
  | .capture index body => index :: body.captureIndices

/-- A repetition in its simplest form. Repeating a body that matches nothing
but the empty text more than once is repeating it once; no repetition at all
is the empty expression, whatever the body captures; and one copy is the
body. -/
def repeated
    (body : Expression)
    (least : Nat)
    (most : Option Nat)
    (greedy : Bool) :
    Expression :=
  let least := if body.isOnlyEmpty then min least 1 else least
  let most :=
    if body.isOnlyEmpty then some (min (most.getD 1) 1) else most
  if least = 0 ∧ most = some 0 then .empty
  else if least = 1 ∧ most = some 1 then body
  else .repetition body least most greedy

def inSequence : List Expression → Expression
  | [] => .empty
  | [expression] => expression
  | expression :: remaining => .sequence expression (inSequence remaining)

/-- The characters that an expression for a single character matches. -/
def singles? : Expression → Option CharSet
  | .character expected => some (.only expected)
  | .set members => some members
  | _ => none

/-- The characters that expressions for single characters match together. -/
def allSingles? : List Expression → Option CharSet
  | [] => some .empty
  | expression :: remaining =>
      match expression.singles?, allSingles? remaining with
      | some members, some others => some (.union members others)
      | _, _ => none

/-- A choice between the expressions, the earlier the better. -/
def firstOf : List Expression → Expression
  | [] => .empty
  | [expression] => expression
  | expression :: remaining => .choice expression (firstOf remaining)

/-- Any of the expressions, the earlier the better. Where each stands for a
single character, so does the whole. -/
def inOrder (expressions : List Expression) : Expression :=
  match expressions with
  | _ :: _ :: _ =>
      match allSingles? expressions with
      | some members => .set members
      | none => firstOf expressions
  | _ => firstOf expressions

end Expression

end NamedCapture
