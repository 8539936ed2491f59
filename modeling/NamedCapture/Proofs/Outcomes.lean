import Mathlib.Data.Nat.Find
import NamedCapture.Attribution
import NamedCapture.Proofs.Slices

/-!
Contract: what becomes of the ranges of a match, for every subject, every list
of ranges and every table.

Owns:
- the ranges that are defects, and which defect is reported;
- the view of a match without defects, column by column;
- the order of the two errors, and the irrelevance of the whole match.

Does not own: what the engine searched for, or the records of a mapping.
-/

namespace NamedCapture

/-! ## One group -/

theorem captureText_of_not_admits
    {subject : Text} {number : Nat} {range : Span}
    (defective : ¬ subject.Admits range) :
    captureText subject number (some range) =
      .error (.invalidRange number range subject.byteLength) := by
  rw [captureText]
  cases sliced : subject.sliceAt? range with
  | none => rfl
  | some text => exact absurd (Text.admits_of_sliceAt? sliced) defective

/-- A group without a defect has a text exactly when it has a range, and the text
has the bytes of the range. -/
theorem exists_captureText
    {subject : Text} (number : Nat) {entry : Option Span}
    (admitted : ∀ range, entry = some range → subject.Admits range) :
    ∃ captured, captureText subject number entry = .ok captured ∧
      captured.map Text.bytes = entry.map subject.bytesAt := by
  cases entry with
  | none => exact ⟨none, rfl, rfl⟩
  | some range =>
      obtain ⟨text, sliced⟩ := (admitted range rfl).exists_sliceAt?
      refine ⟨some text, ?_, ?_⟩
      · rw [captureText, sliced]
      · rw [Option.map_some, Option.map_some, Text.bytes_of_sliceAt? sliced]

/-! ## Defects -/

/-- A range of a group that does not slice the subject. The whole match, at
position zero, is never one. -/
structure IsDefect
    (subject : Text) (ranges : CaptureRanges) (position : Nat) (range : Span) : Prop where
  positive : 1 ≤ position
  found : ranges[position]? = some (some range)
  defective : ¬ subject.Admits range

/-- The defect at the least position. -/
structure IsFirstDefect
    (subject : Text) (ranges : CaptureRanges) (position : Nat) (range : Span) : Prop
    extends IsDefect subject ranges position range where
  least : ∀ earlier other, IsDefect subject ranges earlier other → position ≤ earlier

theorem IsDefect.exists_first
    {subject : Text} {ranges : CaptureRanges} {position : Nat} {range : Span}
    (defect : IsDefect subject ranges position range) :
    ∃ first firstRange, IsFirstDefect subject ranges first firstRange := by
  classical
  have some_defect : ∃ position range, IsDefect subject ranges position range :=
    ⟨position, range, defect⟩
  obtain ⟨firstRange, firstDefect⟩ := Nat.find_spec some_defect
  refine ⟨Nat.find some_defect, firstRange, firstDefect, ?_⟩
  intro earlier other otherDefect
  exact Nat.find_min' some_defect ⟨other, otherDefect⟩

/-- A range before the first defect slices the subject. -/
theorem IsFirstDefect.admits_before
    {subject : Text} {ranges : CaptureRanges} {position earlier : Nat} {range other : Span}
    (first : IsFirstDefect subject ranges position range)
    (positive : 1 ≤ earlier) (before : earlier < position)
    (found : ranges[earlier]? = some (some other)) : subject.Admits other := by
  by_contra defective
  have bound := first.least earlier other ⟨positive, found, defective⟩
  omega

/-! ## The groups of a match

The ranges still to be mapped are a tail of the whole list, so that a group's
number is its position in that list. -/

/-- One step: the range at the number of a group decides about the group. -/
theorem mapGroups_drop
    {subject : Text} {ranges : CaptureRanges} {number : Nat} {entry : Option Span}
    (group : GroupDefinition) (groups : List GroupDefinition)
    (found : ranges[number]? = some entry) :
    mapGroups subject number (ranges.drop number) (group :: groups) =
      (captureText subject number entry).bind fun text =>
        (mapGroups subject (number + 1) (ranges.drop (number + 1)) groups).map
          (⟨number, text, group.name⟩ :: ·) := by
  obtain ⟨inside, entryEq⟩ := List.getElem?_eq_some_iff.mp found
  rw [List.drop_eq_getElem_cons inside, entryEq, mapGroups]
  cases captureText subject number entry with
  | error error => rfl
  | ok text =>
      cases mapGroups subject (number + 1) (ranges.drop (number + 1)) groups <;> rfl

/-- The mapping fails at the first defect, whatever stands behind it. -/
theorem mapGroups_of_first_defect
    {subject : Text} {ranges : CaptureRanges} {number position : Nat} {range : Span}
    {groups : List GroupDefinition}
    (first : IsFirstDefect subject ranges position range)
    (positive : 1 ≤ number) (behind : number ≤ position)
    (reached : position < number + groups.length) :
    mapGroups subject number (ranges.drop number) groups =
      .error (.invalidRange position range subject.byteLength) := by
  induction groups generalizing number with
  | nil =>
      rw [List.length_nil] at reached
      omega
  | cons group groups inductionHypothesis =>
      rw [List.length_cons] at reached
      rcases Nat.eq_or_lt_of_le behind with rfl | before
      · rw [mapGroups_drop group groups first.found, captureText_of_not_admits first.defective]
        rfl
      · have inside : number < ranges.length := by
          have positionInside := (List.getElem?_eq_some_iff.mp first.found).1
          omega
        have found : ranges[number]? = some ranges[number] := List.getElem?_eq_getElem inside
        have admitted : ∀ other, ranges[number] = some other → subject.Admits other := by
          intro other otherEq
          rw [otherEq] at found
          exact first.admits_before positive before found
        obtain ⟨captured, capturedEq, -⟩ := exists_captureText number admitted
        rw [mapGroups_drop group groups found, capturedEq,
          Except.bind, inductionHypothesis (by omega) (by omega) (by omega)]
        rfl

/-- What a list of results says about the ranges and the table entries it was
mapped from: one result for each entry, and every column in order. -/
structure HasColumns
    (subject : Text) (number : Nat) (ranges : List (Option Span))
    (groups : List GroupDefinition) (results : List GroupResult) : Prop where
  indices : results.map GroupResult.groupIndex = List.range' number groups.length
  names : results.map GroupResult.groupName = groups.map GroupDefinition.name
  texts : results.map (fun result => result.matchingText.map Text.bytes) =
    ranges.map (Option.map subject.bytesAt)

/-- Without a defect the mapping succeeds. -/
theorem mapGroups_of_no_defect
    {subject : Text} {ranges : CaptureRanges} {number : Nat} (groups : List GroupDefinition)
    (sound : ∀ position range, ¬ IsDefect subject ranges position range)
    (positive : 1 ≤ number) (counts : ranges.length - number = groups.length) :
    ∃ results, mapGroups subject number (ranges.drop number) groups = .ok results ∧
      HasColumns subject number (ranges.drop number) groups results := by
  induction groups generalizing number with
  | nil =>
      have exhausted : ranges.drop number = [] := by
        rw [List.length_nil] at counts
        rw [List.drop_eq_nil_iff]
        omega
      rw [exhausted]
      exact ⟨[], rfl, rfl, rfl, rfl⟩
  | cons group groups inductionHypothesis =>
      rw [List.length_cons] at counts
      have inside : number < ranges.length := by omega
      have found : ranges[number]? = some ranges[number] := List.getElem?_eq_getElem inside
      have admitted : ∀ range, ranges[number] = some range → subject.Admits range := by
        intro range rangeEq
        rw [rangeEq] at found
        by_contra defective
        exact sound number range ⟨positive, found, defective⟩
      obtain ⟨captured, capturedEq, bytesEq⟩ := exists_captureText number admitted
      have later : 1 ≤ number + 1 := by omega
      obtain ⟨results, resultsEq, columns⟩ := inductionHypothesis later (by omega)
      refine ⟨⟨number, captured, group.name⟩ :: results, ?_, ?_, ?_, ?_⟩
      · rw [mapGroups_drop group groups found, capturedEq, Except.bind, resultsEq]
        rfl
      · rw [List.map_cons, columns.indices, List.length_cons, List.range'_succ]
      · rw [List.map_cons, columns.names, List.map_cons]
      · rw [List.drop_eq_getElem_cons inside, List.map_cons, List.map_cons, bytesEq,
          columns.texts]

/-! ## Matches -/

theorem mapMatch_of_misaligned
    {subject : Text} {ranges : CaptureRanges} {table : GroupTable}
    (misaligned : ranges.length - 1 ≠ table.size) :
    mapMatch subject ranges table = .error (.alignment table.size (ranges.length - 1)) := by
  rw [mapMatch, checkAlignment, if_neg misaligned.symm]

theorem mapMatch_of_aligned
    {subject : Text} {ranges : CaptureRanges} {table : GroupTable}
    (aligned : ranges.length - 1 = table.size) :
    mapMatch subject ranges table =
      (mapGroups subject 1 (ranges.drop 1) table.groups).map View.mk := by
  rw [mapMatch, checkAlignment, if_pos aligned.symm]
  cases mapGroups subject 1 (ranges.drop 1) table.groups <;> rfl

theorem mapMatch_of_defect
    {subject : Text} {ranges : CaptureRanges} {table : GroupTable}
    (aligned : ranges.length - 1 = table.size)
    (defective : ∃ position range, IsDefect subject ranges position range) :
    ∃ position range, IsFirstDefect subject ranges position range ∧
      mapMatch subject ranges table =
        .error (.invalidRange position range subject.byteLength) := by
  obtain ⟨position, range, defect⟩ := defective
  obtain ⟨first, firstRange, firstDefect⟩ := defect.exists_first
  have inside := (List.getElem?_eq_some_iff.mp firstDefect.found).1
  have counts : table.size = table.groups.length := rfl
  refine ⟨first, firstRange, firstDefect, ?_⟩
  rw [mapMatch_of_aligned aligned,
    mapGroups_of_first_defect firstDefect le_rfl firstDefect.positive (by omega)]
  rfl

theorem mapMatch_of_no_defect
    {subject : Text} {ranges : CaptureRanges} {table : GroupTable}
    (aligned : ranges.length - 1 = table.size)
    (sound : ∀ position range, ¬ IsDefect subject ranges position range) :
    ∃ view, mapMatch subject ranges table = .ok view ∧ view.size = table.size ∧
      HasColumns subject 1 (ranges.drop 1) table.groups view.results := by
  obtain ⟨results, resultsEq, columns⟩ :=
    mapGroups_of_no_defect table.groups sound le_rfl aligned
  refine ⟨⟨results⟩, ?_, ?_, columns⟩
  · rw [mapMatch_of_aligned aligned, resultsEq]
    rfl
  · have lengths := congrArg List.length columns.indices
    rw [List.length_map, List.length_range'] at lengths
    exact lengths

/-- A match is refused for its counts or for a range, or there is a view. -/
theorem mapMatch_cases (subject : Text) (ranges : CaptureRanges) (table : GroupTable) :
    mapMatch subject ranges table = .error (.alignment table.size (ranges.length - 1)) ∨
    (∃ position range, mapMatch subject ranges table =
      .error (.invalidRange position range subject.byteLength)) ∨
    ∃ view, mapMatch subject ranges table = .ok view ∧
      HasColumns subject 1 (ranges.drop 1) table.groups view.results := by
  by_cases aligned : ranges.length - 1 = table.size
  · by_cases defective : ∃ position range, IsDefect subject ranges position range
    · obtain ⟨position, range, -, failed⟩ := mapMatch_of_defect aligned defective
      exact .inr (.inl ⟨position, range, failed⟩)
    · have sound : ∀ position range, ¬ IsDefect subject ranges position range :=
        fun position range defect => defective ⟨position, range, defect⟩
      obtain ⟨view, mapped, -, columns⟩ := mapMatch_of_no_defect aligned sound
      exact .inr (.inr ⟨view, mapped, columns⟩)
  · exact .inl (mapMatch_of_misaligned aligned)

/-- Every outcome of mapping a match. Unequal counts win over any defect; then the
first defect is reported; then there is a view with one result for each table
entry. The range of the whole match never matters. -/
theorem mapMatch_outcome
    (subject : Text) (ranges : CaptureRanges) (table : GroupTable) :
    (ranges.length - 1 ≠ table.size →
      mapMatch subject ranges table = .error (.alignment table.size (ranges.length - 1))) ∧
    (ranges.length - 1 = table.size →
      (∃ position range, IsDefect subject ranges position range) →
      ∃ position range, IsFirstDefect subject ranges position range ∧
        mapMatch subject ranges table =
          .error (.invalidRange position range subject.byteLength)) ∧
    (ranges.length - 1 = table.size →
      (∀ position range, ¬ IsDefect subject ranges position range) →
      ∃ view, mapMatch subject ranges table = .ok view ∧ view.size = table.size ∧
        HasColumns subject 1 (ranges.drop 1) table.groups view.results) ∧
    (∀ others, others.drop 1 = ranges.drop 1 →
      mapMatch subject others table = mapMatch subject ranges table) := by
  refine ⟨mapMatch_of_misaligned, mapMatch_of_defect, mapMatch_of_no_defect, ?_⟩
  intro others same
  have counts : others.length - 1 = ranges.length - 1 := by
    rw [← List.length_drop, ← List.length_drop, same]
  rw [mapMatch, mapMatch, counts, same]

/-- The second group's range ends inside the two bytes of a character, and is
reported before the reversed range of the third group. -/
example :
    mapMatch ['n', 'é'] [none, some ⟨0, 1⟩, some ⟨1, 2⟩, some ⟨3, 1⟩]
      ⟨List.replicate 3 ⟨0, [], none, ⟨0, 0⟩⟩⟩ = .error (.invalidRange 2 ⟨1, 2⟩ 3) := rfl

end NamedCapture
