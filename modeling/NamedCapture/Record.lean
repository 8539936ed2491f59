import NamedCapture.Error

/-!
Contract: the records a capture session writes to its log.

Owns: the events worth a record, the level and wording of each, and which error
of a capture is itself such an event.

Does not own: when an event happens.
-/

namespace NamedCapture

/-- How much a record matters. -/
inductive Level where
  | error
  | debug
  | trace
deriving DecidableEq, Repr

/-- An event worth a record. -/
inductive Record where
  /-- A pattern was analysed. -/
  | analysed (source : Text) (groups : Nat) (simplified : Text)
  /-- A simplified pattern was compiled and its groups agree with the table. -/
  | compiled (simplified : Text)
  /-- The table and the engine disagree on the number of capturing groups. -/
  | misaligned (table engine : Nat)
  /-- The engine reported a range that slices no text of the subject. -/
  | unsliceable (group : Nat) (range : Span) (subjectLength : Nat)
  /-- A match was mapped; `first` is the first entry of its ranges. -/
  | mapped (captures : Nat) (first : Option (Option Span))
deriving DecidableEq, Repr

namespace Record

def level : Record → Level
  | .analysed _ _ _ => .debug
  | .compiled _ => .debug
  | .misaligned _ _ => .error
  | .unsliceable _ _ _ => .error
  | .mapped _ _ => .trace

/-- The first entry of a range list, which may be missing, absent, or a
range. -/
def renderFirst : Option (Option Span) → String
  | none => "None"
  | some none => "Some(None)"
  | some (some span) => s!"Some(Some({span.render}))"

def text : Record → String
  | .analysed source groups simplified =>
      s!"analysed pattern '{source.render}': {groups} capturing groups, " ++
        s!"rewritten to '{simplified.render}'"
  | .compiled simplified => s!"compiled pattern '{simplified.render}'"
  | .misaligned table engine =>
      s!"group table has {table} capturing groups but the engine reports " ++
        s!"{engine}; refusing to map captures"
  | .unsliceable group range subjectLength =>
      s!"engine reported capture range {range.render} for group {group} " ++
        s!"outside a subject of {subjectLength} bytes"
  | .mapped captures first =>
      s!"mapped {captures} captures from match {renderFirst first}"

/-- The record that accompanies an error, for the errors that have one. -/
def ofError? : CaptureError → Option Record
  | .pattern _ => none
  | .compilation _ => none
  | .execution _ => none
  | .alignment table engine => some (.misaligned table engine)
  | .invalidRange group range subjectLength =>
      some (.unsliceable group range subjectLength)

end Record

end NamedCapture
