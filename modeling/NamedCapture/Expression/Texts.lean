import NamedCapture.Expression.Basic
import NamedCapture.Text

/-!
Contract: the expressions that stand for a short list of texts.

Such an expression needs no search of its own: the texts can be looked for.

Owns: the texts of an expression, as long as there are few and each is short.

Does not own: captures and conditions, which are more than text.
-/

namespace NamedCapture

/-- The members of a set, unless there are more than ten. -/
def CharSet.members? (set : CharSet) : Option (List Char) :=
  let ranges := set.ranges
  let count : Nat :=
    ranges.foldl (fun count (first, last) => count + (last - first + 1)) 0
  if 10 < count then none
  else
    some
      (ranges.flatMap fun (first, last) =>
        (List.range' first (last - first + 1)).map Char.ofNat)

namespace Expression

/-- The most texts an expression is spelled out to. -/
def textLimit : Nat := 250

def textSizeLimit : Nat := 100

/-- The most copies a repetition is spelled out to. -/
def copyLimit : Nat := 10

/-- Every text of one list followed by every text of another. -/
def crossed (first second : List Text) : Option (List Text) :=
  if textLimit < first.length * second.length then none
  else
    let texts := first.flatMap fun start => second.map (start ++ ·)
    if texts.all (Text.byteLength · ≤ textSizeLimit) then some texts else none

/-- A number of texts from a list, one after the other. -/
def copied (texts : List Text) : Nat → Option (List Text)
  | 0 => some [[]]
  | count + 1 => (copied texts count).bind (crossed · texts)

/-- The texts an expression matches, if they can be spelled out. -/
def texts? : Expression → Option (List Text)
  | .empty => some [[]]
  | .character expected => some [[expected]]
  | .set members => members.members?.map (·.map ([·]))
  | .assertion _ => none
  | .sequence first second => do crossed (← first.texts?) (← second.texts?)
  | .choice preferred other => do
      let texts := (← preferred.texts?) ++ (← other.texts?)
      if textLimit < texts.length then none else some texts
  | .repetition body least most _ => do
      let texts ← body.texts?
      if least = 0 ∧ most = some 1 then some (texts ++ [[]])
      else if most = some least ∧ least ≤ copyLimit then copied texts least
      else none
  | .capture _ _ => none

/-- Whether an expression stands for nothing but a few texts, none of which is
empty. -/
def isLiteral (expression : Expression) : Bool :=
  match expression.texts? with
  | some (text :: texts) => (text :: texts).all (!·.isEmpty)
  | _ => false

end Expression

end NamedCapture
