import NamedCapture.GroupTable
import NamedCapture.Pattern.Excision
import NamedCapture.Pattern.GroupKind
import NamedCapture.Pattern.Scan

/-!
Contract: the table of a pattern's capturing groups, and the pattern without
the names.

Groups are numbered left to right. Groups that take no capture number are
skipped, so the table lines up with the numbering of an engine that compiles
the simplified pattern.

Owns: the rejection of captures inside groups, the numbering, and the choice of
the byte spans that hold names.

Does not own: the syntax of anything but groups.
-/

namespace NamedCapture

/-- A pattern's capturing groups and its text without name annotations. -/
structure Analysis where
  simplified : Text
  table : GroupTable
deriving DecidableEq, Repr

namespace Analysis

/-- The text from a byte offset on, empty when the offset splits a
character. -/
def tailFrom (pattern : Text) (start : Nat) : Text :=
  (pattern.dropBytes? start).getD []

/-- The first capturing group among the groups at the given offsets. -/
def firstCapture? (pattern : Text) (offsets : List Nat) : Option Nat :=
  offsets.find? fun offset =>
    (GroupKind.classify (tailFrom pattern offset)).isCapturing

/-- The span of an annotation of a given length in a group that starts at a
given offset. -/
def annotationSpan (groupStart annotationLength : Nat) : Span :=
  ⟨groupStart + 1, groupStart + 1 + annotationLength⟩

/-- The groups and the annotations found so far. -/
structure Progress where
  groups : List GroupDefinition
  annotations : List Span
deriving DecidableEq, Repr

def Progress.addGroup
    (progress : Progress)
    (content : Text)
    (name : Option Text)
    (span : Span) :
    Progress :=
  { progress with
    groups := progress.groups ++ [⟨progress.groups.length, content, name, span⟩] }

def Progress.addNameSpan (progress : Progress) (span : Span) : Progress :=
  { progress with annotations := progress.annotations ++ [span] }

def absorb
    (pattern : Text)
    (progress : Progress)
    (scanned : ScannedGroup) :
    Except PatternError Progress :=
  match firstCapture? pattern scanned.inner with
  | some offset => .error (.captureInsideGroup offset)
  | none =>
      let content := (pattern.sliceAt? scanned.span).getD []
      match GroupKind.classify content with
      | .nonCapturing => .ok progress
      | .lookaround => .ok progress
      | .capturing => .ok (progress.addGroup content none scanned.span)
      | .named name annotationLength =>
          .ok ((progress.addGroup content (some name) scanned.span).addNameSpan
            (annotationSpan scanned.span.start annotationLength))

/-- Take the remaining outermost groups into account, left to right. -/
def absorbAll
    (pattern : Text)
    (progress : Progress) :
    List ScannedGroup → Except PatternError Progress
  | [] => .ok progress
  | scanned :: remaining =>
      match absorb pattern progress scanned with
      | .error error => .error error
      | .ok following => absorbAll pattern following remaining

/-- One line per group, then the simplified pattern. -/
def document (analysis : Analysis) : String :=
  let groupLine (group : GroupDefinition) (ordinal : Nat) : String :=
    let name := Text.render (group.name.getD [])
    let content := group.content.render
    s!"Group {ordinal + 1}: Index {group.index} Contains \"{content}\" " ++
      s!"isNamed: {group.isNamed} Name: '{name}'"
  let groupLines := analysis.table.groups.mapIdx fun ordinal group =>
    groupLine group ordinal
  "\n".intercalate
    (groupLines ++ [s!"Simplified to {analysis.simplified.render}"])

end Analysis

/-- Tabulate the capturing groups of a pattern and remove their names. -/
def analyze (pattern : Text) : Except PatternError Analysis :=
  match scanPattern pattern with
  | .error error => .error error
  | .ok scanned =>
      match Analysis.absorbAll pattern ⟨[], []⟩ scanned with
      | .error error => .error error
      | .ok progress =>
          .ok ⟨pattern.excise progress.annotations, ⟨progress.groups⟩⟩

end NamedCapture
