import NamedCapture.Engine
import NamedCapture.Expression.Footprint
import NamedCapture.Expression.Reading.Pattern
import NamedCapture.Expression.Search

/-!
Contract: the engine for the dialect without lookaround.

Compile switches become the flags in force at the start of the pattern. A
search takes time linear in the subject and never fails.

Owns: the order in which defects of a pattern are found: a malformed one is
reported before an oversized one.

Does not own: the dialect, or the search.
-/

namespace NamedCapture

/-- A pattern compiled for linear search. -/
structure LinearPattern where
  source : Text
  program : Program
deriving Repr

namespace LinearPattern

def compile
    (pattern : Text)
    (options : CompileOptions) :
    Except EngineError LinearPattern :=
  let limit := options.sizeLimit.getD Expression.defaultSizeLimit
  match Expression.read (.ofOptions options) pattern with
  | .error detail => .error (.malformed detail.toList)
  | .ok expression =>
      if expression.fitsIn limit then
        .ok ⟨pattern, .ofExpression expression⟩
      else
        .error (.oversized limit)

/-- Number of capture slots, the whole match included. A capture that was
dropped still has its slot if a later one was not. -/
def captureSlots (compiled : LinearPattern) : Nat :=
  compiled.program.groups

def allMatches
    (compiled : LinearPattern)
    (subject : Text) :
    List CaptureRanges :=
  let subject := Subject.ofText subject
  let find (place : Nat) : Except Empty (Option Slots) :=
    .ok (compiled.program.search subject place)
  (successive subject.size find).filterMap fun result =>
    match result with
    | .error impossible => nomatch impossible
    | .ok slots => some (slots.spans subject compiled.program.groups)

end LinearPattern

def linearEngine : Engine Unit LinearPattern where
  compile pattern options world := (LinearPattern.compile pattern options, world)
  captureSlots := LinearPattern.captureSlots
  execute compiled subject options world :=
    (.ok (options.selectMatches (compiled.allMatches subject)), world)

end NamedCapture
