import NamedCapture.Pattern.Defect
import NamedCapture.Text

/-!
Contract: everything that can go wrong between a pattern and its captures, with
the wording shown to a user.

Owns: the causes an engine may report, the causes this library reports, their
messages, and the chain of messages below each.

Does not own: when a cause arises.
-/

namespace NamedCapture

/-- A cause reported by an engine. -/
inductive EngineError where
  /-- The pattern is not of the engine's dialect. -/
  | malformed (detail : Text)
  /-- The compiled program would exceed the size limit. -/
  | oversized (limit : Nat)
  /-- The pattern is not of the lookaround dialect. -/
  | unsupported (detail : Text)
  /-- The search took more backtracking steps than allowed. -/
  | exhausted
deriving DecidableEq, Repr

def EngineError.message : EngineError → String
  | .malformed detail => detail.render
  | .oversized limit =>
      s!"Compiled regex exceeds size limit of {limit} bytes."
  | .unsupported detail => detail.render
  | .exhausted =>
      "Error executing regex: Max limit for backtracking count exceeded"

/-- A cause reported to whoever asked for captures. -/
inductive CaptureError where
  /-- The pattern's group structure is malformed. -/
  | pattern (error : PatternError)
  /-- The engine rejected the simplified pattern. -/
  | compilation (error : EngineError)
  /-- The engine failed while searching. -/
  | execution (error : EngineError)
  /-- The table and the engine disagree on the number of capturing groups. -/
  | alignment (table engine : Nat)
  /-- The engine reported a range that slices no text of the subject. -/
  | invalidRange (group : Nat) (range : Span) (subjectLength : Nat)
deriving DecidableEq, Repr

def Span.render (span : Span) : String :=
  s!"{span.start}..{span.stop}"

namespace CaptureError

def message : CaptureError → String
  | .pattern error => error.message
  | .compilation error => error.message
  | .execution error => s!"regex engine failed while matching: {error.message}"
  | .alignment table engine =>
      s!"group table lists {table} capturing groups but the engine reports " ++
        s!"{engine}; capture indices would be misattributed"
  | .invalidRange group range subjectLength =>
      s!"engine reported capture range {range.render} for group {group}, " ++
        s!"which does not slice a subject of {subjectLength} bytes"

/-- The messages of the underlying causes, outermost first. A compilation error
speaks with the engine's voice, so only the engine's own cause is below it; an
execution error has the engine's report and that report's cause below it. -/
def sources : CaptureError → List String
  | .pattern _ => []
  | .compilation error => [error.message]
  | .execution error => [error.message, error.message]
  | .alignment _ _ => []
  | .invalidRange _ _ _ => []

end CaptureError

end NamedCapture
