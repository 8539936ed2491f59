import NamedCapture.GroupTable
import NamedCapture.Record
import NamedCapture.View

/-!
Contract: the capture ranges of a match become a view under the names of a
group table, or a loud error.

Entry zero of a range list is the whole match and is never examined. Entry
`i + 1` belongs to table entry `i`. A group that took no part keeps its place,
so positions never shift.

Owns: the comparison of the two counts, the slicing of the subject, the order
in which errors win, and the records written on the way.

Does not own: the search that produced the ranges.
-/

namespace NamedCapture

/-- The byte ranges of one match: the whole match, then every capturing group
in order. A group that took no part has no range. -/
abbrev CaptureRanges := List (Option Span)

/-- Fails unless a table and an engine count the same capturing groups. -/
def checkAlignment (table engine : Nat) : Except CaptureError Unit :=
  if table = engine then .ok () else .error (.alignment table engine)

/-- The text an engine reports for a group. A range that does not slice the
subject is a defect and never an absent capture. -/
def captureText
    (subject : Text)
    (group : Nat) :
    Option Span → Except CaptureError (Option Text)
  | none => .ok none
  | some range =>
      match subject.sliceAt? range with
      | some text => .ok (some text)
      | none => .error (.invalidRange group range subject.byteLength)

/-- Pair ranges with table entries, numbering the results from `number`. The
first range that does not slice the subject wins. -/
def mapGroups
    (subject : Text)
    (number : Nat) :
    List (Option Span) → List GroupDefinition →
      Except CaptureError (List GroupResult)
  | range :: ranges, group :: groups =>
      match captureText subject number range with
      | .error error => .error error
      | .ok text =>
          match mapGroups subject (number + 1) ranges groups with
          | .error error => .error error
          | .ok results => .ok (⟨number, text, group.name⟩ :: results)
  | _, _ => .ok []

def mapMatch
    (subject : Text)
    (ranges : CaptureRanges)
    (table : GroupTable) :
    Except CaptureError View :=
  match checkAlignment table.size (ranges.length - 1) with
  | .error error => .error error
  | .ok () =>
      match mapGroups subject 1 (ranges.drop 1) table.groups with
      | .error error => .error error
      | .ok results => .ok ⟨results⟩

/-- The records written while one match was mapped: one for the view, or one
for the error. -/
def mapMatchRecords
    (ranges : CaptureRanges) :
    Except CaptureError View → List Record
  | .ok view => [.mapped view.size ranges.head?]
  | .error error => (Record.ofError? error).toList

/-- The views of all matches in order and the records written on the way. The
first match that cannot be mapped ends the mapping. -/
def mapMatches
    (subject : Text)
    (table : GroupTable) :
    List CaptureRanges → Except CaptureError (List View) × List Record
  | [] => (.ok [], [])
  | ranges :: remaining =>
      let outcome := mapMatch subject ranges table
      let records := mapMatchRecords ranges outcome
      match outcome with
      | .error error => (.error error, records)
      | .ok view =>
          let (views, following) := mapMatches subject table remaining
          (views.map (view :: ·), records ++ following)

end NamedCapture
