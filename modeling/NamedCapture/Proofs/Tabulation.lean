import NamedCapture.Pattern.Analysis
import NamedCapture.Proofs.Acceptance
import NamedCapture.Proofs.Kinds

/-!
Contract: the analysis of a pattern, read off its outline.

Owns:
- the kind of a group in an outline, and the captures at any depth;
- the table and the annotations of an outline;
- the analysis as a function of the outline, and the patterns it accepts.

Does not own: the text that is left when the annotations are cut out.
-/

namespace NamedCapture

namespace GroupKind

/-- The name of a group of this kind. -/
def name? : GroupKind → Option Text
  | .named name _ => some name
  | _ => none

/-- The length of the annotation in a group of this kind. -/
def annotationLength : GroupKind → Nat
  | .named _ annotationLength => annotationLength
  | _ => 0

theorem name?_eq_some_iff {kind : GroupKind} {name : Text} :
    kind.name? = some name ↔ ∃ annotationLength, kind = .named name annotationLength := by
  cases kind <;> simp [name?]

end GroupKind

namespace Outline

/-! ## Captures -/

def content (body : Outline) : Text :=
  '(' :: (body.text ++ [')'])

def kind (body : Outline) : GroupKind :=
  GroupKind.classify body.content

@[simp] theorem byteLength_content (body : Outline) :
    body.content.byteLength = body.width + 2 := by
  have opening : '('.utf8Size = 1 := rfl
  have closing : ')'.utf8Size = 1 := rfl
  rw [content, Text.byteLength_cons, Text.byteLength_append, Text.byteLength_cons,
    Text.byteLength_nil, opening, closing, width]
  omega

theorem text_group_append (body rest : Outline) (after : Text) :
    (Outline.group body rest).text ++ after = body.content ++ (rest.text ++ after) := by
  simp [text, content]

/-- What stands behind a group leaves its kind unchanged. -/
theorem classify_group (body : Outline) (after : Text) :
    GroupKind.classify ('(' :: (body.text ++ ')' :: after)) = body.kind :=
  GroupKind.ofBody_append_closing body.text after

/-- The offsets of the capturing groups at any depth, when the outline starts at
an offset. -/
def captures (offset : Nat) : Outline → List Nat
  | .done => []
  | .plain item rest => rest.captures (offset + item.byteLength)
  | .group body rest =>
      (if body.kind.isCapturing then [offset] else []) ++
        (body.captures (offset + 1) ++ rest.captures (offset + body.width + 2))

/-- Whether there is a capturing group at any depth. -/
def hasCapture : Outline → Bool
  | .done => false
  | .plain _ rest => rest.hasCapture
  | .group body rest => body.kind.isCapturing || (body.hasCapture || rest.hasCapture)

/-- Whether no outermost group has a capturing group inside. -/
def isFlat : Outline → Bool
  | .done => true
  | .plain _ rest => rest.isFlat
  | .group body rest => !body.hasCapture && rest.isFlat

theorem captures_eq_nil_iff (outline : Outline) (offset : Nat) :
    outline.captures offset = [] ↔ outline.hasCapture = false := by
  induction outline generalizing offset with
  | done => simp [captures, hasCapture]
  | plain item rest inductionHypothesis => exact inductionHypothesis _
  | group body rest bodyHypothesis restHypothesis =>
      rw [captures, hasCapture, List.append_eq_nil_iff, List.append_eq_nil_iff,
        bodyHypothesis, restHypothesis]
      cases body.kind.isCapturing <;> simp

/-- The captures of an outline in the middle of a pattern are the openings whose
tails are classified as capturing. -/
theorem filter_openings
    (outline : Outline) (before after : Text) (offset : Nat) {pattern : Text}
    (patternEq : pattern = before ++ (outline.text ++ after))
    (offsetEq : offset = before.byteLength) :
    (outline.openings offset).filter (fun opening =>
        (GroupKind.classify (Analysis.tailFrom pattern opening)).isCapturing) =
      outline.captures offset := by
  induction outline generalizing before after offset with
  | done => rfl
  | plain item rest inductionHypothesis =>
      refine inductionHypothesis (before ++ item) after _ ?_ ?_
      · rw [patternEq, text, List.append_assoc, List.append_assoc]
      · rw [offsetEq, Text.byteLength_append]
  | group body rest bodyHypothesis restHypothesis =>
      have tailEq : Analysis.tailFrom pattern offset =
          '(' :: (body.text ++ ')' :: (rest.text ++ after)) := by
        rw [Analysis.tailFrom, patternEq, offsetEq, Text.dropBytes?_append,
          text_group_append, content]
        simp
      have inner := bodyHypothesis (before ++ ['(']) (')' :: (rest.text ++ after))
        (offset + 1) (by rw [patternEq, text]; simp)
        (by rw [offsetEq, Text.byteLength_append]; rfl)
      have later := restHypothesis (before ++ body.content) after
        (offset + body.width + 2)
        (by rw [patternEq, text_group_append, List.append_assoc])
        (by rw [offsetEq, Text.byteLength_append, byteLength_content, Nat.add_assoc])
      rw [openings, captures, List.filter_cons, List.filter_append, inner, later, tailEq,
        classify_group]
      cases body.kind.isCapturing <;> rfl

/-! ## Tables -/

/-- The definitions of the capturing groups among the outermost ones, numbered
from an index, when the outline starts at an offset. -/
def definitions (offset index : Nat) : Outline → List GroupDefinition
  | .done => []
  | .plain item rest => rest.definitions (offset + item.byteLength) index
  | .group body rest =>
      if body.kind.isCapturing then
        ⟨index, body.content, body.kind.name?, ⟨offset, offset + body.width + 2⟩⟩ ::
          rest.definitions (offset + body.width + 2) (index + 1)
      else
        rest.definitions (offset + body.width + 2) index

def annotationOf (offset : Nat) : GroupKind → List Span
  | .named _ annotationLength => [Analysis.annotationSpan offset annotationLength]
  | _ => []

/-- The annotations of the outermost groups, when the outline starts at an
offset. -/
def annotations (offset : Nat) : Outline → List Span
  | .done => []
  | .plain item rest => rest.annotations (offset + item.byteLength)
  | .group body rest =>
      annotationOf offset body.kind ++ rest.annotations (offset + body.width + 2)

end Outline

namespace Analysis

/-- An outermost group with a capture inside is rejected, and any other one is
numbered if it captures. -/
theorem absorb_group
    (body : Outline) (before after : Text) (progress : Progress)
    {pattern : Text} {offset : Nat}
    (patternEq : pattern = before ++ (body.content ++ after))
    (offsetEq : offset = before.byteLength) :
    absorb pattern progress
        ⟨⟨offset, offset + body.width + 2⟩, body.openings (offset + 1)⟩ =
      match (body.captures (offset + 1)).head? with
      | some capture => .error (.captureInsideGroup capture)
      | none =>
          .ok ⟨progress.groups ++
              (Outline.group body .done).definitions offset progress.groups.length,
            progress.annotations ++ Outline.annotationOf offset body.kind⟩ := by
  have bodySplit : pattern = (before ++ ['(']) ++ (body.text ++ ')' :: after) := by
    rw [patternEq, Outline.content]
    simp
  have inner := body.filter_openings (before ++ ['(']) (')' :: after) (offset + 1)
    bodySplit (by rw [offsetEq, Text.byteLength_append]; rfl)
  have contentEq : pattern.sliceAt? ⟨offset, offset + body.width + 2⟩ =
      some body.content := by
    rw [patternEq]
    exact Text.slice?_append before body.content after offsetEq
      (by rw [offsetEq, Outline.byteLength_content, Nat.add_assoc])
  rw [absorb, firstCapture?, ← List.head?_filter, inner]
  cases (body.captures (offset + 1)).head? with
  | some capture => rfl
  | none =>
      have kindEq : GroupKind.classify body.content = body.kind := rfl
      rw [contentEq, Option.getD_some]
      simp only [kindEq, Outline.definitions]
      cases body.kind <;>
        simp [Outline.annotationOf, GroupKind.isCapturing, GroupKind.name?,
          Progress.addGroup, Progress.addNameSpan]

/-- What is collected over the outermost groups of an outline, which is accepted
exactly when no capture is inside another group. -/
theorem absorbAll_groups_eq_ok_iff
    (outline : Outline) (before after : Text) {progress final : Progress}
    {pattern : Text} {offset : Nat}
    (patternEq : pattern = before ++ (outline.text ++ after))
    (offsetEq : offset = before.byteLength) :
    absorbAll pattern progress (outline.groups offset) = .ok final ↔
      outline.isFlat = true ∧
        final = ⟨progress.groups ++ outline.definitions offset progress.groups.length,
          progress.annotations ++ outline.annotations offset⟩ := by
  induction outline generalizing before after progress offset with
  | done =>
      rcases progress with ⟨groups, annotations⟩
      simp [Outline.groups, absorbAll, Outline.isFlat, Outline.definitions,
        Outline.annotations, eq_comm]
  | plain item rest inductionHypothesis =>
      refine inductionHypothesis (before ++ item) after ?_ ?_
      · rw [patternEq, Outline.text, List.append_assoc, List.append_assoc]
      · rw [offsetEq, Text.byteLength_append]
  | group body rest _ restHypothesis =>
      rw [Outline.text_group_append] at patternEq
      have first := absorb_group body before (rest.text ++ after) progress patternEq offsetEq
      rw [Outline.groups, absorbAll, first, Outline.isFlat]
      cases inner : body.captures (offset + 1) with
      | cons capture captures =>
          have nested : body.hasCapture ≠ false := by
            rw [ne_eq, ← body.captures_eq_nil_iff (offset + 1), inner]
            exact List.cons_ne_nil capture captures
          simp [nested]
      | nil =>
          have flat : body.hasCapture = false :=
            (body.captures_eq_nil_iff (offset + 1)).mp inner
          simp only [List.head?_nil, flat, Bool.not_false, Bool.true_and]
          rw [restHypothesis (before ++ body.content) after
            (by rw [patternEq, List.append_assoc])
            (by rw [offsetEq, Text.byteLength_append, Outline.byteLength_content,
              Nat.add_assoc])]
          simp only [Outline.definitions, Outline.annotations, List.append_assoc]
          split <;> simp

end Analysis

theorem Analysis.eq_of_groups
    {first second : Analysis} (simplifiedEq : first.simplified = second.simplified)
    (groupsEq : first.table.groups = second.table.groups) : first = second := by
  rcases first with ⟨_, ⟨_⟩⟩
  cases simplifiedEq
  cases groupsEq
  rfl

/-- The analysis of a pattern with a given outline. -/
def Outline.analysis (outline : Outline) : Analysis :=
  ⟨outline.text.excise (outline.annotations 0), ⟨outline.definitions 0 0⟩⟩

theorem Derives.analyze_eq_ok_iff
    {pattern : Text} {outline : Outline} (derived : Derives pattern outline [])
    {analysis : Analysis} :
    analyze pattern = .ok analysis ↔
      outline.isFlat = true ∧ analysis = outline.analysis := by
  have whole := derived.text_eq
  have absorbed (final : Analysis.Progress) :
      Analysis.absorbAll pattern ⟨[], []⟩ (outline.groups 0) = .ok final ↔
        outline.isFlat = true ∧ final = ⟨outline.definitions 0 0, outline.annotations 0⟩ :=
    Analysis.absorbAll_groups_eq_ok_iff outline [] [] whole rfl
  rw [List.append_nil] at whole
  rw [analyze, scanPattern_of_derives derived, Outline.analysis, ← whole]
  simp only
  cases collected : Analysis.absorbAll pattern ⟨[], []⟩ (outline.groups 0) with
  | error error =>
      rw [iff_false_left (by simp)]
      rintro ⟨flat, -⟩
      have accepted := (absorbed _).mpr ⟨flat, rfl⟩
      rw [collected] at accepted
      cases accepted
  | ok final =>
      obtain ⟨flat, rfl⟩ := (absorbed final).mp collected
      simp [flat, eq_comm]

/-- A pattern is accepted exactly when it is derived and no capture is inside
another group, and its analysis is read off the outline. -/
theorem analyze_eq_ok_iff {pattern : Text} {analysis : Analysis} :
    analyze pattern = .ok analysis ↔
      ∃ outline, Derives pattern outline [] ∧ outline.isFlat = true ∧
        analysis = outline.analysis := by
  constructor
  · intro analyzed
    cases scanned : scanPattern pattern with
    | error error =>
        rw [analyze, scanned] at analyzed
        cases analyzed
    | ok groups =>
        obtain ⟨outline, derived⟩ := exists_derives_of_scanPattern scanned
        exact ⟨outline, derived, derived.analyze_eq_ok_iff.mp analyzed⟩
  · rintro ⟨outline, derived, flat⟩
    exact derived.analyze_eq_ok_iff.mpr flat

end NamedCapture
