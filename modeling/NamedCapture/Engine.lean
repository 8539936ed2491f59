import NamedCapture.Attribution
import NamedCapture.Options

/-!
Contract: the seam between group bookkeeping and whatever runs the simplified
pattern.

An engine may keep state between calls, and any call may fail; a stateless
engine has the unit type for its world.

Owns: the shape of an engine, and the two ways of selecting matches from a
stream of search results.

Does not own: any matching.
-/

namespace NamedCapture

/-- Something that compiles patterns and searches subjects. -/
structure Engine (World Compiled : Type) where
  /-- Compile a pattern without name annotations. -/
  compile : Text → CompileOptions → World → Except EngineError Compiled × World
  /-- Number of capture slots, the whole match included. -/
  captureSlots : Compiled → Nat
  /-- The successive matches that the options select in a subject. -/
  execute :
    Compiled → Text → MatchOptions → World →
      Except EngineError (List CaptureRanges) × World

/-- A request an engine received. -/
inductive EngineCall (Compiled : Type) where
  | compile (pattern : Text) (options : CompileOptions)
  | execute (compiled : Compiled) (subject : Text) (options : MatchOptions)
deriving Repr

/-! ## Selection of matches -/

def CaptureRanges.startsAtOrigin (ranges : CaptureRanges) : Bool :=
  match ranges.head? with
  | some (some span) => span.start == 0
  | _ => false

namespace MatchOptions

def accepts (options : MatchOptions) (ranges : CaptureRanges) : Bool :=
  !options.anchored || CaptureRanges.startsAtOrigin ranges

/-- Whether a number of matches is all that is wanted. -/
def satisfiedBy (options : MatchOptions) (found : Nat) : Bool :=
  match options.limit with
  | none => false
  | some limit => limit ≤ found

/-- The wanted matches of a stream that cannot fail: the longest run of
accepted ones, cut at the limit. -/
def selectMatches
    (options : MatchOptions)
    (stream : List CaptureRanges) :
    List CaptureRanges :=
  let accepted := stream.takeWhile options.accepts
  match options.limit with
  | none => accepted
  | some limit => accepted.take limit

/-- The wanted matches of a stream that may fail, when `found` have been
collected before. Each result is looked at only while more are wanted; then a
failure is reported, and then the anchoring test may end the stream. -/
def selectResultsFrom
    (options : MatchOptions)
    (found : Nat) :
    List (Except EngineError CaptureRanges) →
      Except EngineError (List CaptureRanges)
  | [] => .ok []
  | result :: remaining =>
      if options.satisfiedBy found then
        .ok []
      else
        match result with
        | .error error => .error error
        | .ok ranges =>
            if options.accepts ranges then
              (options.selectResultsFrom (found + 1) remaining).map (ranges :: ·)
            else
              .ok []

def selectResults
    (options : MatchOptions)
    (stream : List (Except EngineError CaptureRanges)) :
    Except EngineError (List CaptureRanges) :=
  options.selectResultsFrom 0 stream

end MatchOptions

end NamedCapture
