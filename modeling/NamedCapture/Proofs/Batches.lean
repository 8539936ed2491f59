import NamedCapture.Proofs.Outcomes
import NamedCapture.Session

/-!
Contract: all matches of a search become views or none does, and the log tells how
far the mapping came, for every engine.

Owns:
- the errors of a match, and the record that goes with each;
- the mapping of a list of matches up to the first that fails;
- the answer and the records of a request for all matches.

Does not own: which matches a search finds, or when a pattern is compiled.
-/

namespace NamedCapture

/-! ## Errors of one match -/

/-- An error that comes with one record, which names the same numbers. -/
inductive Reports : CaptureError → Record → Prop where
  | counts (table engine : Nat) :
      Reports (.alignment table engine) (.misaligned table engine)
  | range (group : Nat) (range : Span) (subjectLength : Nat) :
      Reports (.invalidRange group range subjectLength)
        (.unsliceable group range subjectLength)

theorem Reports.ofError?_eq {error : CaptureError} {record : Record}
    (reports : Reports error record) : Record.ofError? error = some record := by
  cases reports <;> rfl

theorem Reports.of_ofError? {error : CaptureError} {record : Record}
    (found : Record.ofError? error = some record) : Reports error record := by
  cases error with
  | pattern _ | compilation _ | execution _ => cases found
  | alignment table engine =>
      cases found
      exact .counts table engine
  | invalidRange group range subjectLength =>
      cases found
      exact .range group range subjectLength

theorem Reports.level_eq {error : CaptureError} {record : Record}
    (reports : Reports error record) : record.level = .error := by
  cases reports <;> rfl

/-- A match that cannot be mapped has an error with a record of its own. -/
theorem exists_reports_of_mapMatch
    {subject : Text} {ranges : CaptureRanges} {table : GroupTable} {error : CaptureError}
    (failed : mapMatch subject ranges table = .error error) :
    ∃ record, Reports error record := by
  rcases mapMatch_cases subject ranges table with
    refused | ⟨position, range, refused⟩ | ⟨view, mapped, -⟩
  · have errorEq : error = .alignment table.size (ranges.length - 1) :=
      Except.error.inj (failed.symm.trans refused)
    rw [errorEq]
    exact ⟨_, .counts table.size (ranges.length - 1)⟩
  · have errorEq : error = .invalidRange position range subject.byteLength :=
      Except.error.inj (failed.symm.trans refused)
    rw [errorEq]
    exact ⟨_, .range position range subject.byteLength⟩
  · rw [mapped] at failed
    cases failed

/-! ## Lists of matches -/

/-- The matches of a list are mapped to views one by one, in order. -/
def MapsTo
    (subject : Text) (table : GroupTable) (found : List CaptureRanges)
    (views : List View) : Prop :=
  found.map (mapMatch subject · table) = views.map .ok

/-- The record of each match that was mapped, in order. -/
def mappedRecords (found : List CaptureRanges) (views : List View) : List Record :=
  List.zipWith (fun ranges view => .mapped view.size ranges.head?) found views

/-- The least position at which a match cannot be mapped. -/
structure IsFirstFailure
    (subject : Text) (table : GroupTable) (found : List CaptureRanges)
    (position : Nat) (error : CaptureError) : Prop where
  failed : ∃ ranges, found[position]? = some ranges ∧
    mapMatch subject ranges table = .error error
  least : ∀ earlier ranges other, found[earlier]? = some ranges →
    mapMatch subject ranges table = .error other → position ≤ earlier

section Lists

variable {subject : Text} {table : GroupTable}

theorem mapsTo_cons_iff
    {ranges : CaptureRanges} {found : List CaptureRanges} {view : View} {views : List View} :
    MapsTo subject table (ranges :: found) (view :: views) ↔
      mapMatch subject ranges table = .ok view ∧ MapsTo subject table found views := by
  unfold MapsTo
  simp

theorem MapsTo.length_eq {found : List CaptureRanges} {views : List View}
    (maps : MapsTo subject table found views) : views.length = found.length := by
  have lengths := congrArg List.length maps
  simpa using lengths.symm

theorem MapsTo.length_mappedRecords {found : List CaptureRanges} {views : List View}
    (maps : MapsTo subject table found views) :
    (mappedRecords found views).length = found.length := by
  unfold mappedRecords
  rw [List.length_zipWith, maps.length_eq, Nat.min_self]

/-- Matches are mapped to views exactly when each of them is mapped. -/
theorem exists_mapsTo_iff {found : List CaptureRanges} :
    (∃ views, MapsTo subject table found views) ↔
      ∀ ranges ∈ found, ∃ view, mapMatch subject ranges table = .ok view := by
  induction found with
  | nil =>
      simp only [List.not_mem_nil, false_implies, implies_true, iff_true]
      exact ⟨[], rfl⟩
  | cons ranges found inductionHypothesis =>
      rw [List.forall_mem_cons, ← inductionHypothesis]
      constructor
      · intro ⟨views, maps⟩
        cases views with
        | nil => cases maps
        | cons view views =>
            obtain ⟨mapped, later⟩ := mapsTo_cons_iff.mp maps
            exact ⟨⟨view, mapped⟩, views, later⟩
      · intro ⟨⟨view, mapped⟩, views, later⟩
        exact ⟨view :: views, mapsTo_cons_iff.mpr ⟨mapped, later⟩⟩

/-- One step: a match that is mapped adds its view and its record in front of what
comes of the others. -/
theorem mapMatches_of_mapped
    {ranges : CaptureRanges} {view : View} (remaining : List CaptureRanges)
    (mapped : mapMatch subject ranges table = .ok view) :
    mapMatches subject table (ranges :: remaining) =
      ((mapMatches subject table remaining).1.map (view :: ·),
        .mapped view.size ranges.head? :: (mapMatches subject table remaining).2) := by
  rw [mapMatches]
  simp only [mapped]
  rfl

/-- One step: a match that cannot be mapped ends the mapping with one record. -/
theorem mapMatches_of_failed
    {ranges : CaptureRanges} {error : CaptureError} {record : Record}
    (remaining : List CaptureRanges) (reports : Reports error record)
    (failed : mapMatch subject ranges table = .error error) :
    mapMatches subject table (ranges :: remaining) = (.error error, [record]) := by
  rw [mapMatches]
  simp only [failed]
  rw [mapMatchRecords, reports.ofError?_eq]
  rfl

/-- A run of matches that are mapped adds their views and their records in front of
what comes of the others. -/
theorem mapMatches_append
    {before : List CaptureRanges} {views : List View} (remaining : List CaptureRanges)
    (maps : MapsTo subject table before views) :
    mapMatches subject table (before ++ remaining) =
      ((mapMatches subject table remaining).1.map (views ++ ·),
        mappedRecords before views ++ (mapMatches subject table remaining).2) := by
  induction before generalizing views with
  | nil =>
      have viewsEq : views = [] := List.length_eq_zero_iff.mp maps.length_eq
      rw [viewsEq, List.nil_append]
      have unchanged : (mapMatches subject table remaining).1.map (([] : List View) ++ ·) =
          (mapMatches subject table remaining).1 := by
        cases (mapMatches subject table remaining).1 <;> rfl
      rw [unchanged]
      rfl
  | cons ranges before inductionHypothesis =>
      cases views with
      | nil => cases maps
      | cons view views =>
          obtain ⟨mapped, later⟩ := mapsTo_cons_iff.mp maps
          rw [List.cons_append, mapMatches_of_mapped _ mapped, inductionHypothesis later]
          cases (mapMatches subject table remaining).1 <;> rfl

/-- When every match is mapped, the views are all there is, with one record each. -/
theorem mapMatches_of_mapsTo {found : List CaptureRanges} {views : List View}
    (maps : MapsTo subject table found views) :
    mapMatches subject table found = (.ok views, mappedRecords found views) := by
  have whole := mapMatches_append [] maps
  rw [List.append_nil] at whole
  rw [whole, mapMatches, List.append_nil, Except.map, List.append_nil]

/-- Some match cannot be mapped, so there is a first one. -/
theorem exists_isFirstFailure {found : List CaptureRanges}
    (unmapped : ¬ ∃ views, MapsTo subject table found views) :
    ∃ position error, IsFirstFailure subject table found position error := by
  classical
  have some_failure : ∃ position : Nat, ∃ error ranges, found[position]? = some ranges ∧
      mapMatch subject ranges table = .error error := by
    rw [exists_mapsTo_iff] at unmapped
    push Not at unmapped
    obtain ⟨ranges, member, failed⟩ := unmapped
    obtain ⟨position, positionEq⟩ := List.mem_iff_getElem?.mp member
    cases outcome : mapMatch subject ranges table with
    | error error => exact ⟨position, error, ranges, positionEq, outcome⟩
    | ok view => exact absurd outcome (failed view)
  obtain ⟨error, ranges, foundEq, failed⟩ := Nat.find_spec some_failure
  refine ⟨Nat.find some_failure, error, ⟨ranges, foundEq, failed⟩, ?_⟩
  intro earlier earlierRanges other earlierEq earlierFailed
  exact Nat.find_min' some_failure ⟨other, earlierRanges, earlierEq, earlierFailed⟩

theorem IsFirstFailure.lt_length
    {found : List CaptureRanges} {position : Nat} {error : CaptureError}
    (first : IsFirstFailure subject table found position error) : position < found.length := by
  obtain ⟨ranges, foundEq, -⟩ := first.failed
  exact (List.getElem?_eq_some_iff.mp foundEq).1

/-- The matches before the first failure are all mapped. -/
theorem IsFirstFailure.exists_mapsTo_take
    {found : List CaptureRanges} {position : Nat} {error : CaptureError}
    (first : IsFirstFailure subject table found position error) :
    ∃ views, MapsTo subject table (found.take position) views := by
  apply exists_mapsTo_iff.mpr
  intro ranges member
  obtain ⟨earlier, earlierEq⟩ := List.mem_iff_getElem?.mp member
  rw [List.getElem?_take] at earlierEq
  split at earlierEq
  case isFalse => cases earlierEq
  case isTrue before =>
    cases outcome : mapMatch subject ranges table with
    | ok view => exact ⟨view, rfl⟩
    | error other =>
        have bound := first.least earlier ranges other earlierEq outcome
        omega

/-- The first failure decides the answer. The records are those of the matches
before it and one for its error. -/
theorem IsFirstFailure.mapMatches_eq
    {found : List CaptureRanges} {position : Nat} {error : CaptureError}
    (first : IsFirstFailure subject table found position error) :
    ∃ views record, MapsTo subject table (found.take position) views ∧ Reports error record ∧
      mapMatches subject table found =
        (.error error, mappedRecords (found.take position) views ++ [record]) := by
  obtain ⟨views, maps⟩ := first.exists_mapsTo_take
  obtain ⟨ranges, foundEq, failed⟩ := first.failed
  obtain ⟨record, reports⟩ := exists_reports_of_mapMatch failed
  obtain ⟨inside, rangesEq⟩ := List.getElem?_eq_some_iff.mp foundEq
  have split : found = found.take position ++ ranges :: found.drop (position + 1) := by
    rw [← rangesEq, ← List.drop_eq_getElem_cons inside, List.take_append_drop]
  have mapped := mapMatches_append (ranges :: found.drop (position + 1)) maps
  rw [← split, mapMatches_of_failed _ reports failed] at mapped
  exact ⟨views, record, maps, reports, mapped⟩

end Lists

/-! ## Requests for all matches -/

namespace NamedExpression

variable {World Compiled : Type}

/-- A compiled form is at hand without a record when it was kept, and else with one
record. -/
theorem records_of_compile
    {expression : NamedExpression Compiled} {engine : Engine World Compiled} {world : World}
    {compiled : Compiled} (ready : (expression.compile engine world).answer = .ok compiled) :
    (expression.compile engine world).records =
      if expression.compiled.isSome then [] else [.compiled expression.simplified] := by
  unfold compile at ready ⊢
  split
  · rename_i held
    rw [held]
    rfl
  · rename_i empty
    simp only [empty] at ready ⊢
    split at ready
    · cases ready
    · split at ready
      · cases ready
      · rfl

/-- Once there is a compiled form, the outcome of its one search decides the answer
and the records of a request for all matches. -/
theorem capturesAll_of_ready
    {expression : NamedExpression Compiled} {engine : Engine World Compiled} {world : World}
    {compiled : Compiled} (ready : (expression.compile engine world).answer = .ok compiled)
    (subject : Text) (options : MatchOptions) :
    let before := expression.compile engine world
    let turn := expression.capturesAll engine subject options world
    (∀ error after,
      engine.execute compiled subject options before.world = (.error error, after) →
      turn.answer = .error (.execution error) ∧ turn.records = before.records) ∧
    ∀ found after,
      engine.execute compiled subject options before.world = (.ok found, after) →
      turn.answer = (mapMatches subject expression.table found).1 ∧
      turn.records =
        before.records ++ (mapMatches subject expression.table found).2 := by
  intro before turn
  change (∀ error after, engine.execute compiled subject options
      (expression.compile engine world).world = (.error error, after) → _) ∧
    ∀ found after, engine.execute compiled subject options
      (expression.compile engine world).world = (.ok found, after) → _
  constructor
  · intro error after executed
    unfold turn capturesAll
    simp [ready, executed, before]
  · intro found after executed
    unfold turn capturesAll
    simp [ready, executed, before]

/-- A request for all matches is all or nothing, on any engine. When the search
itself fails there is its error and no further record. Otherwise there are views
exactly when every match can be mapped, and then they are those of the matches, one
by one in order, with one record each. If some match cannot be mapped, the answer is
the error of the first such match, and its one record stands behind one record for
each match before it. -/
theorem capturesAll_all_or_none
    {expression : NamedExpression Compiled} {engine : Engine World Compiled} {world : World}
    {compiled : Compiled} (ready : (expression.compile engine world).answer = .ok compiled)
    (subject : Text) (options : MatchOptions) :
    let before := expression.compile engine world
    let turn := expression.capturesAll engine subject options world
    before.records =
      (if expression.compiled.isSome then [] else [.compiled expression.simplified]) ∧
    (∀ error after,
      engine.execute compiled subject options before.world = (.error error, after) →
      turn.answer = .error (.execution error) ∧ turn.records = before.records) ∧
    ∀ found after,
      engine.execute compiled subject options before.world = (.ok found, after) →
      ((∃ views, turn.answer = .ok views) ↔
        ∀ ranges ∈ found, ∃ view, mapMatch subject ranges expression.table = .ok view) ∧
      (∀ views, turn.answer = .ok views →
        MapsTo subject expression.table found views ∧
        (mappedRecords found views).length = found.length ∧
        turn.records = before.records ++ mappedRecords found views) ∧
      ∀ error, turn.answer = .error error →
        ∃ position views record,
          IsFirstFailure subject expression.table found position error ∧
          MapsTo subject expression.table (found.take position) views ∧
          (mappedRecords (found.take position) views).length = position ∧
          Reports error record ∧ record.level = .error ∧
          turn.records =
            before.records ++ (mappedRecords (found.take position) views ++ [record]) := by
  intro before turn
  obtain ⟨searchFailed, searched⟩ := capturesAll_of_ready ready subject options
  refine ⟨records_of_compile ready, searchFailed, ?_⟩
  intro found after executed
  obtain ⟨answerEq, recordsEq⟩ := searched found after executed
  change turn.answer = _ at answerEq
  change turn.records = _ at recordsEq
  by_cases mapped : ∃ views, MapsTo subject expression.table found views
  · obtain ⟨views, maps⟩ := mapped
    rw [mapMatches_of_mapsTo maps] at answerEq recordsEq
    refine ⟨?_, ?_, ?_⟩
    · rw [← exists_mapsTo_iff]
      exact iff_of_true ⟨views, answerEq⟩ ⟨views, maps⟩
    · intro others othersEq
      have same : others = views := Except.ok.inj (othersEq.symm.trans answerEq)
      rw [same]
      exact ⟨maps, maps.length_mappedRecords, recordsEq⟩
    · intro error errorEq
      rw [answerEq] at errorEq
      cases errorEq
  · obtain ⟨position, error, first⟩ := exists_isFirstFailure mapped
    obtain ⟨views, record, maps, reports, outcome⟩ := first.mapMatches_eq
    rw [outcome] at answerEq recordsEq
    refine ⟨?_, ?_, ?_⟩
    · rw [← exists_mapsTo_iff]
      refine iff_of_false ?_ mapped
      intro ⟨others, othersEq⟩
      rw [answerEq] at othersEq
      cases othersEq
    · intro others othersEq
      rw [answerEq] at othersEq
      cases othersEq
    · intro other otherEq
      have same : other = error := Except.error.inj (otherEq.symm.trans answerEq)
      rw [same]
      refine ⟨position, views, record, first, maps, ?_, reports, reports.level_eq, recordsEq⟩
      rw [maps.length_mappedRecords, List.length_take]
      exact Nat.min_eq_left (Nat.le_of_lt first.lt_length)

/-- An engine for one capturing group that finds the matches it is made of. -/
def replayingEngine (found : List CaptureRanges) : Engine Unit Unit where
  compile _ _ world := (.ok (), world)
  captureSlots _ := 2
  execute _ _ _ world := (.ok found, world)

/-- The second of three matches has a range past the subject: there is no view, one
match is on record, and the third, which has too few ranges, is not looked at. -/
theorem capturesAll_stops_at_second_match :
    let pattern : Text := ['(', 'x', ')']
    let expression : NamedExpression Unit :=
      ⟨pattern, ⟨pattern, ⟨[⟨0, pattern, none, ⟨0, 3⟩⟩]⟩⟩, {}, none⟩
    let found : List CaptureRanges :=
      [[some ⟨0, 1⟩, some ⟨0, 1⟩], [some ⟨1, 2⟩, some ⟨1, 5⟩], [none]]
    let turn := expression.capturesAll (replayingEngine found) ['x', 'y'] {} ()
    (ofPattern Unit pattern {}).1 = .ok expression ∧
    turn.answer = .error (.invalidRange 1 ⟨1, 5⟩ 2) ∧
    turn.records = [.compiled pattern, .mapped 1 (some (some ⟨0, 1⟩)), .unsliceable 1 ⟨1, 5⟩ 2] ∧
    IsFirstFailure ['x', 'y'] expression.table found 1 (.invalidRange 1 ⟨1, 5⟩ 2) := by
  intro pattern expression found turn
  refine ⟨rfl, rfl, rfl, ?_⟩
  obtain ⟨-, -, searched⟩ := @capturesAll_all_or_none Unit Unit expression
    (replayingEngine found) () () rfl ['x', 'y'] {}
  obtain ⟨position, -, -, first, -⟩ := (searched found () rfl).2.2 _ rfl
  have bound : position ≤ 1 := first.least 1 _ _ rfl rfl
  have mapped : position ≠ 0 := by
    rintro rfl
    obtain ⟨ranges, foundEq, failed⟩ := first.failed
    cases foundEq
    cases failed
  have second : position = 1 := by omega
  rw [second] at first
  exact first

end NamedExpression

end NamedCapture
