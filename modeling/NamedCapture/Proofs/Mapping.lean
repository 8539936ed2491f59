import NamedCapture.Session

/-!
Contract: where the results of a view come from.

Owns:
- the range and the table entry behind each result of a match;
- the answers of the engine behind the views of a request.

Does not own: the errors of a mapping that fails.
-/

namespace NamedCapture

/-! ## Matches -/

/-- A result stands for the range and the table entry at its position: it has the
name of the entry and the text of the range. -/
theorem mapGroups_getElem?
    {subject : Text} {number position : Nat} {ranges : List (Option Span)}
    {groups : List GroupDefinition} {results : List GroupResult} {result : GroupResult}
    (mapped : mapGroups subject number ranges groups = .ok results)
    (found : results[position]? = some result) :
    ∃ range group, ranges[position]? = some range ∧ groups[position]? = some group ∧
      result.groupIndex = number + position ∧ result.groupName = group.name ∧
      captureText subject (number + position) range = .ok result.matchingText := by
  induction ranges generalizing number position groups results with
  | nil =>
      cases groups <;> cases mapped <;> simp at found
  | cons range ranges inductionHypothesis =>
      cases groups with
      | nil =>
          cases mapped
          simp at found
      | cons group groups =>
          rw [mapGroups] at mapped
          split at mapped
          · cases mapped
          split at mapped
          · cases mapped
          rename_i text textEq _ later laterEq
          cases mapped
          cases position with
          | zero =>
              cases found
              exact ⟨range, group, rfl, rfl, rfl, rfl, textEq⟩
          | succ position =>
              obtain ⟨laterRange, laterGroup, rangeEq, groupEq, indexEq, nameEq, laterText⟩ :=
                inductionHypothesis laterEq found
              have shifted : number + (position + 1) = number + 1 + position := by omega
              rw [shifted]
              exact ⟨laterRange, laterGroup, rangeEq, groupEq, indexEq, nameEq, laterText⟩

/-- The result at a position stands for the next range, since the first one is
the whole match. -/
theorem mapMatch_getElem?
    {subject : Text} {ranges : CaptureRanges} {table : GroupTable} {view : View}
    {position : Nat} {result : GroupResult}
    (mapped : mapMatch subject ranges table = .ok view)
    (found : view.results[position]? = some result) :
    ∃ range group, ranges[position + 1]? = some range ∧ table.get? position = some group ∧
      result.groupIndex = position + 1 ∧ result.groupName = group.name ∧
      captureText subject (position + 1) range = .ok result.matchingText := by
  rw [mapMatch] at mapped
  split at mapped
  · cases mapped
  split at mapped
  · cases mapped
  rename_i results resultsEq
  cases mapped
  obtain ⟨range, group, rangeEq, groupEq, entry⟩ := mapGroups_getElem? resultsEq found
  rw [List.getElem?_drop, Nat.add_comm 1 position] at rangeEq
  rw [Nat.add_comm 1 position] at entry
  exact ⟨range, group, rangeEq, groupEq, entry⟩

namespace NamedExpression

/-! ## Requests -/

variable {World Compiled : Type}

end NamedExpression

end NamedCapture
