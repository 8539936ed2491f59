import NamedCapture.Expression.Determinism
import NamedCapture.Expression.Texts
import NamedCapture.Matching.Subject

/-!
Contract: the report, in which a linear search inside a longer search writes the
places of the groups it found.

There is one report for the whole of the longer search, and going back does not
restore it. What a linear search leaves in it depends on how the search is done:
looking for texts writes only the whole match, so places of groups that an
earlier search wrote remain and are read as its own.

Owns: what a linear search leaves in the report.

Does not own: the search, or the use of the places.
-/

namespace NamedCapture.Lookaround

/-- How a linear search writes its report. -/
inductive ReportStyle where
  /-- Texts are looked for: a match writes its own place and that of no group. -/
  | wholeMatch
  /-- A single pass: everything is erased before it, and a match writes all. -/
  | erasing
  /-- A match writes everything, and without a match nothing changes. -/
  | replacing
deriving DecidableEq, Repr

namespace ReportStyle

/-- How the search for an expression with a program writes its report. -/
def ofExpression (expression : Expression) (program : Program) : ReportStyle :=
  if expression.isLiteral then .wholeMatch
  else if !expression.captureIndices.isEmpty && program.isDeterministic then
    .erasing
  else
    .replacing

end ReportStyle

/-- The places of the whole match and of its groups, two slots each. -/
abbrev Report := Slots

namespace Report

def blank : Report := #[]

/-- The report with room for a number of groups besides the whole match: slots
beyond them are dropped, and new ones are empty. -/
def resize (report : Report) (groups : Nat) : Report :=
  ((List.range (2 * (groups + 1))).map report.read).toArray

/-- The report after a search that may have found slots. -/
def afterSearch
    (report : Report)
    (style : ReportStyle)
    (groups : Nat)
    (found? : Option Slots) :
    Report :=
  let room := report.resize groups
  match found?, style with
  | some found, .wholeMatch =>
      (room.write 0 (found.read 0)).write 1 (found.read 1)
  | some found, _ => Report.resize found groups
  | none, .erasing => blank.resize groups
  | none, _ => room

end Report

end NamedCapture.Lookaround
