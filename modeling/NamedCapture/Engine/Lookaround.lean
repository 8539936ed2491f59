import NamedCapture.Engine
import NamedCapture.Lookaround.Search

/-!
Contract: the engine for the dialect with lookaround.

Compile switches are written in front of the pattern as inline flags, so a
switch the dialect has no flag for makes every pattern unsupported. No size limit
can be asked for; whatever is left to a linear search has the default one.

Owns: the choice between a linear search, for a pattern without demanding
parts, and the backtracking machine.

Does not own: the dialect, or the search.
-/

namespace NamedCapture

/-- How a compiled pattern is searched for. -/
inductive LookaroundPlan where
  | linear (program : Program) (captureSlots : Nat)
  | machine (code : Lookaround.Code)
deriving Repr

/-- A pattern compiled with its inline flags. -/
structure LookaroundPattern where
  source : Text
  plan : LookaroundPlan
deriving Repr

namespace LookaroundPattern

def planOf (node : Lookaround.Node) : Except String LookaroundPlan :=
  if !node.isSound 1 then
    .error "a backreference is to no group"
  else if node.isDemanding then
    (Lookaround.Code.ofNode node).map .machine
  else
    match Expression.read {} (node.render .loose) with
    | .error error => .error error
    | .ok expression =>
        if expression.fitsIn Expression.defaultSizeLimit then
          .ok (.linear (.ofExpression expression)
            (expression.captureIndices.length + 1))
        else
          .error "the pattern is too great"

def compile
    (pattern : Text)
    (options : CompileOptions) :
    Except EngineError LookaroundPattern :=
  let source := options.inlineFlags ++ pattern
  match (Lookaround.Node.read source).bind planOf with
  | .error detail => .error (.unsupported detail.toList)
  | .ok plan => .ok ⟨source, plan⟩

/-- Number of capture slots, the whole match included. -/
def captureSlots (compiled : LookaroundPattern) : Nat :=
  match compiled.plan with
  | .linear _ captureSlots => captureSlots
  | .machine code => code.groups

/-- The stream of search results in a subject. It ends with the first
failure. -/
def results
    (compiled : LookaroundPattern)
    (subject : Text) :
    List (Except EngineError CaptureRanges) :=
  let subject := Subject.ofText subject
  let (find, groups) :
      (Nat → Except EngineError (Option Slots)) × Nat :=
    match compiled.plan with
    | .linear program _ =>
        (fun place => .ok (program.search subject place), program.groups)
    | .machine code => (code.search subject, code.groups)
  (successive subject.size find).map fun result =>
    result.map fun slots => slots.spans subject groups

end LookaroundPattern

/-- The engine that supports lookaround by going back. -/
def lookaroundEngine : Engine Unit LookaroundPattern where
  compile pattern options world :=
    (LookaroundPattern.compile pattern options, world)
  captureSlots := LookaroundPattern.captureSlots
  execute compiled subject options world :=
    (options.selectResults (compiled.results subject), world)

end NamedCapture
