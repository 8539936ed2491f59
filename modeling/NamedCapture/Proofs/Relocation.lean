import NamedCapture.Proofs.Annotations

/-!
Contract: scanning the simplified pattern finds what scanning the pattern finds,
each offset moved to where its byte stands once the annotations are removed.

Owns:
- a scan whose parentheses are moved, as a simulation of the scan;
- the structural parentheses of the simplified pattern;
- the agreement of the two scans, and of the parentheses that match.

Does not own: which bytes are annotated.
-/

namespace NamedCapture

/-! ## Moving a scan -/

namespace Parenthesis

def relocate (place : Nat → Nat) : Parenthesis → Parenthesis
  | .opening offset => .opening (place offset)
  | .closing offset => .closing (place offset)

theorem offset_relocate (place : Nat → Nat) (parenthesis : Parenthesis) :
    (parenthesis.relocate place).offset = place parenthesis.offset := by
  cases parenthesis <;> rfl

theorem relocate_relocate (first second : Nat → Nat) (parenthesis : Parenthesis) :
    (parenthesis.relocate first).relocate second = parenthesis.relocate (second ∘ first) := by
  cases parenthesis <;> rfl

theorem relocate_eq_self
    {place : Nat → Nat} {parenthesis : Parenthesis}
    (fixed : place parenthesis.offset = parenthesis.offset) :
    parenthesis.relocate place = parenthesis := by
  cases parenthesis with
  | opening offset => exact congrArg Parenthesis.opening fixed
  | closing offset => exact congrArg Parenthesis.closing fixed

end Parenthesis

def ScannedGroup.relocate (place : Nat → Nat) (group : ScannedGroup) : ScannedGroup :=
  ⟨⟨place group.span.start, place group.span.stop⟩, group.inner.map place⟩

namespace ScanState

def relocate (place : Nat → Nat) (state : ScanState) : ScanState :=
  { state with
    opened := state.opened.map place
    inner := state.inner.map place
    groups := state.groups.map (·.relocate place) }

/-- Opening and closing groups commutes with moving their parentheses, if the end of
a group moves with the parenthesis that closes it. -/
theorem pair_relocate
    {place : Nat → Nat} {state following : ScanState} {parenthesis : Parenthesis}
    (adjacent : place (parenthesis.offset + 1) = place parenthesis.offset + 1)
    (paired : state.pair parenthesis = .ok following) :
    (state.relocate place).pair (parenthesis.relocate place) =
      .ok (following.relocate place) := by
  rcases state with ⟨mode, opened, inner, groups⟩
  cases parenthesis with
  | opening offset =>
      cases paired
      cases opened with
      | nil => rfl
      | cons first remaining =>
          simp [pair, Parenthesis.relocate, relocate, openGroup]
  | closing offset =>
      match opened with
      | [] => cases paired
      | [first] =>
          cases paired
          simp only [Parenthesis.offset] at adjacent
          simp [pair, Parenthesis.relocate, relocate, closeGroup, ScannedGroup.relocate,
            adjacent]
      | first :: second :: remaining =>
          cases paired
          rfl

theorem pairAll_relocate
    {place : Nat → Nat} (parentheses : List Parenthesis) {state final : ScanState}
    (adjacent : ∀ parenthesis ∈ parentheses,
      place (parenthesis.offset + 1) = place parenthesis.offset + 1)
    (paired : state.pairAll parentheses = .ok final) :
    (state.relocate place).pairAll (parentheses.map (·.relocate place)) =
      .ok (final.relocate place) := by
  induction parentheses generalizing state with
  | nil =>
      cases paired
      rfl
  | cons parenthesis parentheses inductionHypothesis =>
      obtain ⟨middle, first, later⟩ := pairAll_cons_eq_ok_iff.mp paired
      rw [List.map_cons, pairAll_cons_eq_ok_iff]
      refine ⟨_, pair_relocate (adjacent parenthesis List.mem_cons_self) first, ?_⟩
      exact inductionHypothesis
        (fun other member => adjacent other (List.mem_cons_of_mem _ member)) later

theorem finish_relocate
    {place : Nat → Nat} {state : ScanState} {groups : List ScannedGroup}
    (finished : state.finish = .ok groups) :
    (state.relocate place).finish = .ok (groups.map (·.relocate place)) := by
  rcases state with ⟨mode, opened, inner, done⟩
  cases opened with
  | nil =>
      cases finished
      rfl
  | cons innermost remaining => cases finished

end ScanState

/-- Two patterns with the same structural parentheses, up to where they stand, are
scanned alike. -/
theorem scanPattern_relocate
    {pattern other : Text} {place : Nat → Nat} {groups : List ScannedGroup}
    (moved : other.parentheses = pattern.parentheses.map (·.relocate place))
    (adjacent : ∀ parenthesis ∈ pattern.parentheses,
      place (parenthesis.offset + 1) = place parenthesis.offset + 1)
    (scanned : scanPattern pattern = .ok groups) :
    scanPattern other = .ok (groups.map (·.relocate place)) := by
  rw [scanPattern_eq_pairAll] at scanned ⊢
  rw [moved]
  cases paired : ScanState.start.pairAll pattern.parentheses with
  | error error =>
      rw [paired] at scanned
      cases scanned
  | ok final =>
      rw [paired] at scanned
      have movedFinal := ScanState.pairAll_relocate pattern.parentheses adjacent paired
      change ScanState.start.pairAll _ = _ at movedFinal
      rw [movedFinal]
      exact ScanState.finish_relocate scanned

/-! ## Matching parentheses -/

theorem Balanced.relocate
    {parentheses : List Parenthesis} (balanced : Balanced parentheses) (place : Nat → Nat) :
    Balanced (parentheses.map (·.relocate place)) := by
  induction balanced with
  | nil => exact .nil
  | pair opening closing _ _ insideHypothesis laterHypothesis =>
      rw [List.map_cons, List.map_append, List.map_cons]
      exact .pair _ _ insideHypothesis laterHypothesis

theorem Balanced.of_relocate
    {place : Nat → Nat} {parentheses moved : List Parenthesis} (balanced : Balanced moved)
    (movedEq : parentheses.map (·.relocate place) = moved) :
    Balanced parentheses := by
  induction balanced generalizing parentheses with
  | nil =>
      rw [List.map_eq_nil_iff] at movedEq
      subst movedEq
      exact .nil
  | pair opening closing _ _ insideHypothesis laterHypothesis =>
      obtain ⟨first, others, rfl, firstEq, othersEq⟩ := List.map_eq_cons_iff.mp movedEq
      obtain ⟨inside, closed, rfl, insideEq, closedEq⟩ := List.map_eq_append_iff.mp othersEq
      obtain ⟨last, later, rfl, lastEq, laterEq⟩ := List.map_eq_cons_iff.mp closedEq
      cases first with
      | closing offset => cases firstEq
      | opening offset =>
          cases last with
          | opening finish => cases lastEq
          | closing finish =>
              exact .pair _ _ (insideHypothesis insideEq) (laterHypothesis laterEq)

/-- Moved parentheses match exactly when they did before. -/
theorem Text.encloses_relocate_iff
    {pattern other : Text} {place : Nat → Nat}
    (moved : other.parentheses = pattern.parentheses.map (·.relocate place))
    {opening closing : Nat} :
    other.Encloses opening closing ↔
      ∃ first last, pattern.Encloses first last ∧
        place first = opening ∧ place last = closing := by
  constructor
  · rintro ⟨leading, inside, trailing, split, balanced⟩
    rw [moved] at split
    obtain ⟨front, rest, frontSplit, -, restEq⟩ := List.map_eq_append_iff.mp split
    obtain ⟨first, others, rfl, firstEq, othersEq⟩ := List.map_eq_cons_iff.mp restEq
    obtain ⟨between, closed, rfl, betweenEq, closedEq⟩ := List.map_eq_append_iff.mp othersEq
    obtain ⟨last, back, rfl, lastEq, -⟩ := List.map_eq_cons_iff.mp closedEq
    cases first with
    | closing offset => cases firstEq
    | opening offset =>
        cases last with
        | opening finish => cases lastEq
        | closing finish =>
            exact ⟨offset, finish, ⟨front, between, back, frontSplit,
              balanced.of_relocate betweenEq⟩, Parenthesis.opening.inj firstEq,
              Parenthesis.closing.inj lastEq⟩
  · rintro ⟨first, last, ⟨front, between, back, split, balanced⟩, rfl, rfl⟩
    refine ⟨front.map (·.relocate place), between.map (·.relocate place),
      back.map (·.relocate place), ?_, balanced.relocate place⟩
    rw [moved, split]
    simp [Parenthesis.relocate]

/-! ## Parentheses of the simplified pattern -/

namespace Outline

theorem parentheses_add (outline : Outline) (offset distance : Nat) :
    outline.parentheses (offset + distance) =
      (outline.parentheses offset).map (·.relocate (· + distance)) := by
  induction outline generalizing offset with
  | done => rfl
  | plain item rest inductionHypothesis =>
      rw [parentheses, parentheses, ← inductionHypothesis]
      congr 1
      omega
  | group body rest bodyHypothesis restHypothesis =>
      have bodyStart : offset + distance + 1 = offset + 1 + distance := by omega
      have restStart : offset + distance + body.width + 2 =
          offset + body.width + 2 + distance := by omega
      have closing : offset + distance + body.width + 1 =
          offset + body.width + 1 + distance := by omega
      rw [parentheses, parentheses, bodyStart, restStart, closing, bodyHypothesis,
        restHypothesis]
      simp [Parenthesis.relocate]

/-- Items have no structural parentheses, so dropping some only moves the start. -/
theorem parentheses_dropItems (count : Nat) (outline : Outline) {offset start : Nat}
    (startEq : offset + outline.width = start + (outline.dropItems count).width) :
    outline.parentheses offset = (outline.dropItems count).parentheses start := by
  induction outline generalizing count offset with
  | done =>
      cases count <;> rfl
  | group body rest _ _ =>
      have same : offset = start := by
        cases count <;> exact Nat.add_right_cancel startEq
      subst same
      cases count <;> rfl
  | plain item rest inductionHypothesis =>
      cases count with
      | zero =>
          have same : offset = start := Nat.add_right_cancel startEq
          subst same
          rfl
      | succ count =>
          rw [width_plain, dropItems] at startEq
          exact inductionHypothesis count (by omega)

theorem bounds_of_mem_parentheses
    {outline : Outline} {offset : Nat} {parenthesis : Parenthesis}
    (member : parenthesis ∈ outline.parentheses offset) :
    offset ≤ parenthesis.offset ∧ parenthesis.offset < offset + outline.width := by
  induction outline generalizing offset with
  | done => cases member
  | plain item rest inductionHypothesis =>
      obtain ⟨lower, upper⟩ := inductionHypothesis member
      rw [width_plain]
      omega
  | group body rest bodyHypothesis restHypothesis =>
      rw [width_group]
      rw [parentheses, List.mem_cons, List.mem_append, List.mem_cons] at member
      rcases member with rfl | inBody | rfl | inRest
      · simp only [Parenthesis.offset]
        omega
      · obtain ⟨lower, upper⟩ := bodyHypothesis inBody
        omega
      · simp only [Parenthesis.offset]
        omega
      · obtain ⟨lower, upper⟩ := restHypothesis inRest
        omega

end Outline

theorem Derives.start_of_mem_annotations
    {text rest : Text} {outline : Outline} (derived : Derives text outline rest)
    {offset : Nat} {span : Span} (member : span ∈ outline.annotations offset) :
    offset ≤ span.start := by
  obtain ⟨-, -, spansEq⟩ := derived.segments_spec
  rw [← spansEq] at member
  exact Segment.start_of_mem_removedSpans member

/-- The annotation of the first group removes what lies between its parenthesis and
its body; the others remove the rest. -/
theorem Derives.removedBelow_group
    {text middle rest : Text} {body outline : Outline}
    (inner : Derives text body (')' :: middle)) (later : Derives middle outline rest)
    (offset position : Nat) :
    Excision.removedBelow ((Outline.group body outline).annotations offset) position =
      (min position (offset + 1 + body.kind.annotationLength) - (offset + 1)) +
        Excision.removedBelow (outline.annotations (offset + body.width + 2)) position := by
  have bodyWidth := inner.width_eq
  rw [Outline.annotations]
  cases kindEq : body.kind with
  | named name annotationLength =>
      rw [kindEq, GroupKind.annotationLength] at bodyWidth
      rw [Outline.annotationOf, List.singleton_append]
      refine Excision.removedBelow_cons ?_ position
      intro span member
      have start := later.start_of_mem_annotations member
      rw [Analysis.annotationSpan]
      simp only
      omega
  | _ =>
      simp only [Outline.annotationOf, List.nil_append, GroupKind.annotationLength]
      omega

/-- The structural parentheses of a group's body are those of what is left of it, when
the bytes that are left move back by a distance. -/
theorem Derives.parentheses_unnamed
    {text after : Text} {body : Outline} (derived : Derives text body (')' :: after))
    (offset distance : Nat) {shifted : Nat} {place : Nat → Nat}
    (startEq : offset + body.kind.annotationLength = shifted + distance)
    (placeEq : ∀ position, shifted ≤ position → position < shifted + body.unnamed.width →
      place (position + distance) = position) :
    (body.parentheses offset).map (·.relocate place) = body.unnamed.parentheses shifted := by
  have bodyWidth := derived.width_eq
  have dropped : body.parentheses offset = body.unnamed.parentheses (shifted + distance) :=
    Outline.parentheses_dropItems _ body (show _ = _ + body.unnamed.width by omega)
  rw [dropped, Outline.parentheses_add, List.map_map]
  have fixed : ∀ parenthesis ∈ body.unnamed.parentheses shifted,
      ((·.relocate place) ∘ (·.relocate (· + distance))) parenthesis = parenthesis := by
    intro parenthesis member
    obtain ⟨lower, upper⟩ := Outline.bounds_of_mem_parentheses member
    rw [Function.comp_apply, Parenthesis.relocate_relocate]
    apply Parenthesis.relocate_eq_self
    exact placeEq parenthesis.offset lower upper
  rw [List.map_congr_left fixed]
  exact List.map_id' _

/-- The structural parentheses of the simplified outline are those of the outline,
moved. Behind the start of the outline an offset moves by what was removed so far
and by what the annotations of the outline remove. -/
theorem Derives.parentheses_simplified
    {text rest : Text} {outline : Outline} (derived : Derives text outline rest)
    (offset shifted removed : Nat) {place : Nat → Nat}
    (offsetEq : offset = shifted + removed)
    (placeEq : ∀ position, offset ≤ position →
      place position =
        position - (removed + Excision.removedBelow (outline.annotations offset) position)) :
    outline.simplified.parentheses shifted =
      (outline.parentheses offset).map (·.relocate place) := by
  induction derived generalizing offset shifted removed with
  | done => rfl
  | plain _ _ _ inductionHypothesis =>
      exact inductionHypothesis _ _ removed (by omega) fun position lower =>
        placeEq position (by omega)
  | @group text middle rest body outline inner later _ restHypothesis =>
      have bodyWidth := inner.width_eq
      have placeGroup (position : Nat) (lower : offset ≤ position) :
          place position = position - (removed +
            ((min position (offset + 1 + body.kind.annotationLength) - (offset + 1)) +
              Excision.removedBelow (outline.annotations (offset + body.width + 2))
                position)) := by
        rw [placeEq position lower, inner.removedBelow_group later]
      -- The annotations of later groups remove nothing up to the end of this one.
      have nothingLater (position : Nat) (upper : position ≤ offset + body.width + 2) :
          Excision.removedBelow (outline.annotations (offset + body.width + 2)) position =
            0 := by
        apply Excision.removedBelow_eq_zero
        intro span member
        have start := later.start_of_mem_annotations member
        omega
      have opened : place offset = shifted := by
        rw [placeGroup offset (Nat.le_refl offset), nothingLater offset (by omega)]
        omega
      have closed : place (offset + body.width + 1) = shifted + body.unnamed.width + 1 := by
        rw [placeGroup _ (by omega), nothingLater _ (by omega)]
        omega
      have insideEq : (body.parentheses (offset + 1)).map (·.relocate place) =
          body.unnamed.parentheses (shifted + 1) := by
        apply inner.parentheses_unnamed (offset + 1) (removed + body.kind.annotationLength)
          (by omega)
        intro position lower upper
        rw [placeGroup _ (by omega), nothingLater _ (by omega)]
        omega
      have restEq := restHypothesis (offset + body.width + 2)
        (shifted + body.unnamed.width + 2) (removed + body.kind.annotationLength) (by omega)
        (fun position lower => by
          rw [placeGroup position (by omega)]
          omega)
      rw [Outline.simplified, Outline.parentheses, Outline.parentheses, List.map_cons,
        List.map_append, List.map_cons, insideEq, ← restEq, Parenthesis.relocate,
        Parenthesis.relocate, opened, closed]

/-! ## The two scans -/

namespace Place

/-- A structural parenthesis is a character of the text. -/
theorem exists_split_of_mem_parentheses
    {place : Place} {offset : Nat} {text : Text} {parenthesis : Parenthesis}
    (member : parenthesis ∈ place.parentheses offset text) :
    ∃ (before after : Text) (character : Char), text = before ++ character :: after ∧
      offset + before.byteLength = parenthesis.offset ∧
      (character = '(' ∨ character = ')') := by
  obtain ⟨before, after, character, split, structural⟩ := mem_parentheses_iff.mp member
  refine ⟨before, after, character, split,
    (offset_of_parenthesis?_eq_some structural).symm, ?_⟩
  cases parenthesis with
  | opening offset => exact .inl (parenthesis?_eq_opening_iff.mp structural).2.1
  | closing offset => exact .inr (parenthesis?_eq_closing_iff.mp structural).2.1

end Place

/-- No structural parenthesis belongs to an annotation. -/
theorem Text.not_isAnnotated_of_mem_parentheses
    {pattern : Text} {parenthesis : Parenthesis}
    (member : parenthesis ∈ pattern.parentheses) :
    ¬ pattern.IsAnnotated parenthesis.offset := by
  obtain ⟨before, after, character, split, offsetEq, known⟩ :=
    Place.exists_split_of_mem_parentheses member
  rintro ⟨start, label, name, rest, ⟨front, frontSplit, frontEq, -⟩, written, below, above⟩
  rw [Nat.zero_add] at offsetEq
  have inLabel : character ∈ label :=
    mem_of_behind_opening (frontSplit.symm.trans split) (by omega) (by omega)
  rcases known with rfl | rfl
  · exact written.not_mem rfl (by decide) inLabel
  · exact written.not_mem rfl (by decide) inLabel

theorem Excision.shift_succ
    {spans : List Span} {offset : Nat} (clear : covers spans offset = false) :
    shift spans (offset + 1) = shift spans offset + 1 := by
  have bound := removedBelow_le spans offset
  rw [shift, shift, removedBelow_succ, clear]
  simp only [Bool.false_eq_true, if_false]
  omega

/-- The simplified pattern of an accepted one is scanned, and the scan finds what it
finds in the pattern, each offset moved by the annotation bytes below it: as many
outermost groups, numbered or not, with as many groups inside each. The structural
parentheses are the same, moved and still in order, and two of them match exactly if
they matched before. -/
theorem scanPattern_simplified
    {pattern : Text} {analysis : Analysis} (analyzed : analyze pattern = .ok analysis) :
    let place := Excision.shift (analysis.table.annotations pattern)
    ∃ groups, scanPattern pattern = .ok groups ∧
      scanPattern analysis.simplified = .ok (groups.map (·.relocate place)) ∧
      analysis.simplified.parentheses = pattern.parentheses.map (·.relocate place) ∧
      (pattern.parentheses.map fun parenthesis => place parenthesis.offset).Pairwise (· < ·) ∧
      ∀ opening closing, analysis.simplified.Encloses opening closing ↔
        ∃ first last, pattern.Encloses first last ∧
          place first = opening ∧ place last = closing := by
  obtain ⟨outline, derived, flat, rfl⟩ := analyze_eq_ok_iff.mp analyzed
  intro place
  have again := derived.simplified
  rw [List.append_nil] at again
  have moved : outline.analysis.simplified.parentheses =
      pattern.parentheses.map (·.relocate place) := by
    have placeEq (position : Nat) : place position =
        position - (0 + Excision.removedBelow (outline.annotations 0) position) := by
      rw [Nat.zero_add, ← derived.annotations_table]
      rfl
    have simplifiedEq := derived.parentheses_simplified 0 0 0 rfl fun position _ =>
      placeEq position
    rw [derived.analysis_simplified, Text.parentheses, again.parentheses_eq, Text.parentheses,
      derived.parentheses_eq, Place.parentheses_nil, Place.parentheses_nil, List.append_nil,
      List.append_nil, simplifiedEq]
  have adjacent : ∀ parenthesis ∈ pattern.parentheses,
      place (parenthesis.offset + 1) = place parenthesis.offset + 1 := by
    intro parenthesis member
    apply Excision.shift_succ
    rw [Bool.eq_false_iff, ne_eq, derived.covers_annotations_iff flat]
    exact Text.not_isAnnotated_of_mem_parentheses member
  have scanned := scanPattern_of_derives derived
  refine ⟨outline.groups 0, scanned, scanPattern_relocate moved adjacent scanned, moved, ?_,
    fun opening closing => Text.encloses_relocate_iff moved⟩
  have ordered := Place.parentheses_pairwise .outside 0 outline.analysis.simplified
  rw [← Text.parentheses, moved, List.pairwise_map] at ordered
  rw [List.pairwise_map]
  refine ordered.imp ?_
  intro first second before
  rw [Parenthesis.offset_relocate, Parenthesis.offset_relocate] at before
  exact before

/-- A lookahead and a group without a number are found again, the latter inside the
second named group. -/
theorem scanPattern_simplified_keeps_inner :
    let pattern : Text := "(?<a>x)(?=y)(?P<b>[)](?:z))".toList
    ∃ analysis groups, analyze pattern = .ok analysis ∧
      scanPattern pattern = .ok groups ∧
      groups = [⟨⟨0, 7⟩, []⟩, ⟨⟨7, 12⟩, []⟩, ⟨⟨12, 27⟩, [21]⟩] ∧
      scanPattern analysis.simplified =
        .ok [⟨⟨0, 3⟩, []⟩, ⟨⟨3, 8⟩, []⟩, ⟨⟨8, 18⟩, [12]⟩] := by
  obtain ⟨groups, scanned, again, -⟩ :=
    @scanPattern_simplified "(?<a>x)(?=y)(?P<b>[)](?:z))".toList _ rfl
  cases scanned
  exact ⟨_, _, rfl, rfl, by decide +kernel, again⟩

end NamedCapture
