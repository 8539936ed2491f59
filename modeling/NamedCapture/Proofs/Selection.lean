import NamedCapture.Engine.Linear
import NamedCapture.Engine.Lookaround

/-!
Contract: which results of a search a request gets to see.

A stream that cannot fail is selected from by cutting a run of accepted matches
at the limit. A stream that may fail is selected from one result at a time, and
a failure counts only if the selection gets as far as to look at it.

Owns:
- the failures that a selection reports, and the matches it yields otherwise;
- the agreement of the two ways of selecting;
- anchored selection from matches that follow each other;
- the limit that stands for no limit on streams of machine size.

Does not own: the search behind a stream.
-/

namespace NamedCapture

/-! ## Starts of matches -/

namespace CaptureRanges

/-- The byte offset at which a match starts. -/
def start? (ranges : CaptureRanges) : Option Nat :=
  ranges.head?.join.map Span.start

theorem startsAtOrigin_iff {ranges : CaptureRanges} :
    ranges.startsAtOrigin = true ↔ ranges.start? = some 0 := by
  unfold startsAtOrigin start?
  rcases ranges with _ | ⟨_ | span, later⟩ <;> simp

/-- One match starts before another. -/
def StartsBefore (first second : CaptureRanges) : Prop :=
  ∀ start next, first.start? = some start → second.start? = some next → start < next

end CaptureRanges

namespace MatchOptions

theorem accepts_iff {options : MatchOptions} {ranges : CaptureRanges} :
    options.accepts ranges = true ↔
      (options.anchored = true → ranges.start? = some 0) := by
  unfold accepts
  rw [← CaptureRanges.startsAtOrigin_iff]
  cases options.anchored <;> simp

/-! ## What is selected -/

/-- Whether one more match is wanted when so many have been found. -/
def Wants (options : MatchOptions) (found : Nat) : Prop :=
  ∀ limit, options.limit = some limit → found < limit

/-- As many matches of a run as are wanted. -/
def cut (options : MatchOptions) (run : List CaptureRanges) : List CaptureRanges :=
  match options.limit with
  | none => run
  | some limit => run.take limit

/-- A failure that is looked at: one more match is wanted, and only accepted
matches come before it. -/
structure FailsAt
    (options : MatchOptions) (stream : List (Except EngineError CaptureRanges))
    (position : Nat) (error : EngineError) : Prop where
  wanted : options.Wants position
  failed : stream[position]? = some (.error error)
  accepted : ∀ earlier < position, ∃ ranges,
    stream[earlier]? = some (.ok ranges) ∧ options.accepts ranges = true

/-- The longest run of accepted matches that a stream starts with. -/
structure IsLongestRun
    (options : MatchOptions) (stream : List (Except EngineError CaptureRanges))
    (run : List CaptureRanges) : Prop where
  leading : run.map .ok <+: stream
  accepted : ∀ ranges ∈ run, options.accepts ranges = true
  longest : ∀ other : List CaptureRanges, other.map .ok <+: stream →
    (∀ ranges ∈ other, options.accepts ranges = true) → other.length ≤ run.length

def acceptedRun
    (options : MatchOptions) :
    List (Except EngineError CaptureRanges) → List CaptureRanges
  | .ok ranges :: remaining =>
      if options.accepts ranges then ranges :: options.acceptedRun remaining else []
  | _ => []

theorem acceptedRun_isLongestRun
    (options : MatchOptions) (stream : List (Except EngineError CaptureRanges)) :
    options.IsLongestRun stream (options.acceptedRun stream) := by
  induction stream with
  | nil =>
      refine ⟨List.nil_prefix, by simp [acceptedRun], ?_⟩
      intro other leading _
      have empty := List.prefix_nil.mp leading
      simp [List.map_eq_nil_iff.mp empty]
  | cons result remaining inductionHypothesis =>
      cases result with
      | error error =>
          refine ⟨List.nil_prefix, by simp [acceptedRun], ?_⟩
          intro other leading _
          cases other with
          | nil => simp
          | cons ranges other => simp at leading
      | ok ranges =>
          unfold acceptedRun
          by_cases accepted : options.accepts ranges = true
          · rw [if_pos accepted]
            refine ⟨?_, ?_, ?_⟩
            · rw [List.map_cons, List.cons_prefix_cons]
              exact ⟨rfl, inductionHypothesis.leading⟩
            · intro candidate member
              rcases List.mem_cons.mp member with rfl | member
              · exact accepted
              · exact inductionHypothesis.accepted candidate member
            · intro other leading acceptedOther
              cases other with
              | nil => simp
              | cons first other =>
                  rw [List.map_cons, List.cons_prefix_cons] at leading
                  have bound := inductionHypothesis.longest other leading.2
                    fun candidate member => acceptedOther candidate (by simp [member])
                  simpa using bound
          · rw [if_neg accepted]
            refine ⟨List.nil_prefix, by simp, ?_⟩
            intro other leading acceptedOther
            cases other with
            | nil => simp
            | cons first other =>
                rw [List.map_cons, List.cons_prefix_cons] at leading
                have same : first = ranges := Except.ok.inj leading.1
                exact absurd (same ▸ acceptedOther first (by simp)) accepted

/-! ## One result at a time -/

/-- The options for what comes behind a match that was selected. -/
def afterMatch (options : MatchOptions) : MatchOptions :=
  { options with limit := options.limit.map (· - 1) }

theorem accepts_afterMatch (options : MatchOptions) (ranges : CaptureRanges) :
    options.afterMatch.accepts ranges = options.accepts ranges := rfl

theorem satisfiedBy_eq_false_iff {options : MatchOptions} {found : Nat} :
    options.satisfiedBy found = false ↔ options.Wants found := by
  unfold satisfiedBy Wants
  cases options.limit <;> simp

theorem satisfiedBy_afterMatch (options : MatchOptions) (found : Nat) :
    options.afterMatch.satisfiedBy found = options.satisfiedBy (found + 1) := by
  unfold satisfiedBy afterMatch
  cases options.limit with
  | none => rfl
  | some limit => simp

theorem wants_afterMatch_iff {options : MatchOptions} {found : Nat} :
    options.afterMatch.Wants found ↔ options.Wants (found + 1) := by
  rw [← satisfiedBy_eq_false_iff, satisfiedBy_afterMatch, satisfiedBy_eq_false_iff]

theorem Wants.mono
    {options : MatchOptions} {fewer more : Nat} (wanted : options.Wants more)
    (ordered : fewer ≤ more) : options.Wants fewer := by
  intro limit limitEq
  have bound := wanted limit limitEq
  omega

/-- A match found before counts like a smaller limit. -/
theorem selectResultsFrom_succ
    (options : MatchOptions) (found : Nat)
    (stream : List (Except EngineError CaptureRanges)) :
    options.selectResultsFrom (found + 1) stream =
      options.afterMatch.selectResultsFrom found stream := by
  induction stream generalizing found with
  | nil => rfl
  | cons result remaining inductionHypothesis =>
      unfold selectResultsFrom
      rw [satisfiedBy_afterMatch]
      cases result with
      | error error => rfl
      | ok ranges =>
          rw [inductionHypothesis]
          rfl

theorem selectResults_nil (options : MatchOptions) :
    options.selectResults [] = .ok [] := rfl

theorem selectResults_of_satisfied
    {options : MatchOptions} (satisfied : ¬ options.Wants 0)
    (stream : List (Except EngineError CaptureRanges)) :
    options.selectResults stream = .ok [] := by
  rw [← satisfiedBy_eq_false_iff, Bool.not_eq_false] at satisfied
  cases stream with
  | nil => rfl
  | cons result remaining =>
      unfold selectResults selectResultsFrom
      rw [if_pos satisfied]

/-- While a match is wanted, a failure is reported. -/
theorem selectResults_failure
    {options : MatchOptions} (wanted : options.Wants 0) (error : EngineError)
    (remaining : List (Except EngineError CaptureRanges)) :
    options.selectResults (.error error :: remaining) = .error error := by
  rw [← satisfiedBy_eq_false_iff] at wanted
  rw [selectResults, selectResultsFrom, wanted]
  rfl

theorem selectResults_accepted
    {options : MatchOptions} (wanted : options.Wants 0) {ranges : CaptureRanges}
    (accepted : options.accepts ranges = true)
    (remaining : List (Except EngineError CaptureRanges)) :
    options.selectResults (.ok ranges :: remaining) =
      (options.afterMatch.selectResults remaining).map (ranges :: ·) := by
  rw [← satisfiedBy_eq_false_iff] at wanted
  rw [selectResults, selectResultsFrom, wanted]
  simp only [Bool.false_eq_true, if_false, accepted, if_true]
  rw [selectResultsFrom_succ]
  rfl

theorem selectResults_refused
    {options : MatchOptions} {ranges : CaptureRanges}
    (refused : ¬ options.accepts ranges = true)
    (remaining : List (Except EngineError CaptureRanges)) :
    options.selectResults (.ok ranges :: remaining) = .ok [] := by
  rw [selectResults, selectResultsFrom]
  simp [refused]

theorem cut_of_satisfied
    {options : MatchOptions} (satisfied : ¬ options.Wants 0) (run : List CaptureRanges) :
    options.cut run = [] := by
  unfold Wants at satisfied
  unfold cut
  cases limitEq : options.limit with
  | none => simp [limitEq] at satisfied
  | some limit =>
      have zero : limit = 0 := by
        rw [limitEq] at satisfied
        simpa using satisfied
      simp [zero]

theorem cut_cons
    {options : MatchOptions} (wanted : options.Wants 0) (ranges : CaptureRanges)
    (run : List CaptureRanges) :
    options.cut (ranges :: run) = ranges :: options.afterMatch.cut run := by
  unfold cut afterMatch
  cases limitEq : options.limit with
  | none => rfl
  | some limit =>
      have positive := wanted limit limitEq
      obtain ⟨rest, rfl⟩ : ∃ rest, limit = rest + 1 := ⟨limit - 1, by omega⟩
      rfl

theorem acceptedRun_afterMatch
    (options : MatchOptions) (stream : List (Except EngineError CaptureRanges)) :
    options.afterMatch.acceptedRun stream = options.acceptedRun stream := by
  induction stream with
  | nil => rfl
  | cons result remaining inductionHypothesis =>
      cases result with
      | error error => rfl
      | ok ranges =>
          unfold acceptedRun
          rw [inductionHypothesis, accepts_afterMatch]

/-! ## Failures and matches of a whole stream -/

theorem failsAt_cons_zero_iff
    {options : MatchOptions} {result : Except EngineError CaptureRanges}
    {remaining : List (Except EngineError CaptureRanges)} {error : EngineError} :
    options.FailsAt (result :: remaining) 0 error ↔
      options.Wants 0 ∧ result = .error error := by
  constructor
  · intro fails
    have failed := fails.failed
    rw [List.getElem?_cons_zero, Option.some.injEq] at failed
    exact ⟨fails.wanted, failed⟩
  · rintro ⟨wanted, rfl⟩
    refine ⟨wanted, rfl, ?_⟩
    intro earlier impossible
    omega

/-- A failure behind the first result is looked at when that result is accepted. -/
theorem failsAt_cons_succ_iff
    {options : MatchOptions} {result : Except EngineError CaptureRanges}
    {remaining : List (Except EngineError CaptureRanges)} {position : Nat}
    {error : EngineError} :
    options.FailsAt (result :: remaining) (position + 1) error ↔
      (∃ ranges, result = .ok ranges ∧ options.accepts ranges = true) ∧
        options.afterMatch.FailsAt remaining position error := by
  constructor
  · rintro ⟨wanted, failed, accepted⟩
    refine ⟨?_, wants_afterMatch_iff.mpr wanted, failed, ?_⟩
    · obtain ⟨ranges, first, acceptedFirst⟩ := accepted 0 (by omega)
      rw [List.getElem?_cons_zero, Option.some.injEq] at first
      exact ⟨ranges, first, acceptedFirst⟩
    · intro earlier before
      exact accepted (earlier + 1) (by omega)
  · rintro ⟨⟨ranges, rfl, acceptedFirst⟩, wanted, failed, accepted⟩
    refine ⟨wants_afterMatch_iff.mp wanted, failed, ?_⟩
    intro earlier before
    cases earlier with
    | zero => exact ⟨ranges, rfl, acceptedFirst⟩
    | succ earlier => exact accepted earlier (by omega)

/-- The selection fails exactly on a failure that it looks at. -/
theorem selectResults_eq_error_iff
    {options : MatchOptions} {stream : List (Except EngineError CaptureRanges)}
    {error : EngineError} :
    options.selectResults stream = .error error ↔
      ∃ position, options.FailsAt stream position error := by
  induction stream generalizing options with
  | nil =>
      rw [selectResults_nil]
      constructor
      · intro impossible
        cases impossible
      · rintro ⟨position, fails⟩
        have failed := fails.failed
        simp at failed
  | cons result remaining inductionHypothesis =>
      rw [← Nat.or_exists_add_one, failsAt_cons_zero_iff]
      simp only [failsAt_cons_succ_iff]
      by_cases wanted : options.Wants 0
      · cases result with
        | error failure =>
            rw [selectResults_failure wanted]
            simp [wanted]
        | ok ranges =>
            by_cases accepted : options.accepts ranges = true
            · have later := @inductionHypothesis options.afterMatch
              rw [selectResults_accepted wanted accepted]
              cases selected : options.afterMatch.selectResults remaining with
              | error failure =>
                  rw [selected] at later
                  simpa [Except.map, accepted] using later
              | ok run =>
                  rw [selected] at later
                  simpa [Except.map, accepted] using later
            · rw [selectResults_refused accepted]
              simp [accepted]
      · rw [selectResults_of_satisfied wanted]
        constructor
        · intro impossible
          cases impossible
        · rintro (⟨wantedNow, -⟩ | ⟨position, -, fails⟩)
          · exact absurd wantedNow wanted
          · have wantedLater := wants_afterMatch_iff.mp fails.wanted
            exact absurd (wantedLater.mono (Nat.zero_le _)) wanted

/-- Without a failure that is looked at, the selection yields the wanted matches
of the longest run of accepted ones. -/
theorem selectResults_of_no_failure
    {options : MatchOptions} {stream : List (Except EngineError CaptureRanges)}
    (sound : ∀ position error, ¬ options.FailsAt stream position error) :
    options.selectResults stream = .ok (options.cut (options.acceptedRun stream)) := by
  induction stream generalizing options with
  | nil =>
      unfold selectResults selectResultsFrom acceptedRun cut
      cases options.limit <;> simp
  | cons result remaining inductionHypothesis =>
      by_cases wanted : options.Wants 0
      · cases result with
        | error failure =>
            exact absurd (failsAt_cons_zero_iff.mpr ⟨wanted, rfl⟩) (sound 0 failure)
        | ok ranges =>
            by_cases accepted : options.accepts ranges = true
            · have soundLater : ∀ position error,
                  ¬ options.afterMatch.FailsAt remaining position error := by
                intro position error fails
                exact sound (position + 1) error
                  (failsAt_cons_succ_iff.mpr ⟨⟨ranges, rfl, accepted⟩, fails⟩)
              rw [selectResults_accepted wanted accepted, inductionHypothesis soundLater,
                acceptedRun_afterMatch, acceptedRun, if_pos accepted, cut_cons wanted]
              rfl
            · rw [selectResults_refused accepted, acceptedRun, if_neg accepted]
              unfold cut
              cases options.limit <;> simp
      · rw [selectResults_of_satisfied wanted, cut_of_satisfied wanted]

/-! ## Streams that cannot fail -/

theorem acceptedRun_map_ok (options : MatchOptions) (found : List CaptureRanges) :
    options.acceptedRun (found.map .ok) = found.takeWhile options.accepts := by
  induction found with
  | nil => rfl
  | cons ranges found inductionHypothesis =>
      rw [List.map_cons, acceptedRun, inductionHypothesis, List.takeWhile_cons]

/-- On a stream that cannot fail the two ways of selecting agree. -/
theorem selectResults_map_ok (options : MatchOptions) (found : List CaptureRanges) :
    options.selectResults (found.map .ok) = .ok (options.selectMatches found) := by
  have sound : ∀ position error, ¬ options.FailsAt (found.map .ok) position error := by
    intro position error fails
    have failed := fails.failed
    rw [List.getElem?_map, Option.map_eq_some_iff] at failed
    obtain ⟨ranges, -, impossible⟩ := failed
    cases impossible
  rw [selectResults_of_no_failure sound, acceptedRun_map_ok]
  rfl

/-- Of matches that start one after the other, anchored selection accepts the
first one at most. -/
theorem takeWhile_accepts_of_anchored
    {options : MatchOptions} {found : List CaptureRanges} (anchored : options.anchored = true)
    (advancing : found.Pairwise CaptureRanges.StartsBefore) :
    found.takeWhile options.accepts =
      (found.take 1).filter fun ranges => ranges.start? = some 0 := by
  cases found with
  | nil => rfl
  | cons first found =>
      have acceptedFirst : options.accepts first = true ↔ first.start? = some 0 := by
        simp [accepts_iff, anchored]
      rw [List.takeWhile_cons]
      by_cases atOrigin : first.start? = some 0
      · have nothingLater : found.takeWhile options.accepts = [] := by
          cases found with
          | nil => rfl
          | cons second found =>
              have ordered := (List.pairwise_cons.mp advancing).1 second (by simp)
              have refused : ¬ options.accepts second = true := by
                rw [accepts_iff]
                intro accepted
                have impossible := ordered 0 0 atOrigin (accepted anchored)
                omega
              rw [List.takeWhile_cons_of_neg refused]
        rw [if_pos (acceptedFirst.mpr atOrigin), nothingLater]
        simp [atOrigin]
      · have refused : ¬ options.accepts first = true := by
          rw [acceptedFirst]
          exact atOrigin
        rw [if_neg refused]
        simp [atOrigin]

theorem length_cut_le (options : MatchOptions) (run : List CaptureRanges) :
    (options.cut run).length ≤ run.length := by
  unfold cut
  cases options.limit with
  | none => exact Nat.le_refl _
  | some limit => exact List.length_take_le' limit run

theorem cut_of_length_le_one
    {options : MatchOptions} (unspent : options.limit ≠ some 0) {run : List CaptureRanges}
    (short : run.length ≤ 1) : options.cut run = run := by
  unfold cut
  cases limitEq : options.limit with
  | none => rfl
  | some limit =>
      have positive : limit ≠ 0 := by
        rintro rfl
        exact unspent limitEq
      exact List.take_of_length_le (by omega)

/-- Of matches that start one after the other, anchored selection yields the first
one if it starts at the origin, and none otherwise. -/
theorem selectMatches_of_anchored
    {options : MatchOptions} {found : List CaptureRanges} (anchored : options.anchored = true)
    (advancing : found.Pairwise CaptureRanges.StartsBefore) :
    (options.selectMatches found).length ≤ 1 ∧
      (options.limit ≠ some 0 → ∀ ranges, options.selectMatches found = [ranges] ↔
        found.head? = some ranges ∧ ranges.start? = some 0) := by
  have selected : options.selectMatches found = options.cut (found.takeWhile options.accepts) :=
    rfl
  rw [takeWhile_accepts_of_anchored anchored advancing] at selected
  have short : ((found.take 1).filter fun ranges => ranges.start? = some 0).length ≤ 1 :=
    Nat.le_trans (List.length_filter_le _ _) (List.length_take_le 1 found)
  rw [selected]
  refine ⟨Nat.le_trans (length_cut_le _ _) short, ?_⟩
  intro unspent ranges
  rw [cut_of_length_le_one unspent short]
  cases found with
  | nil => simp
  | cons first found =>
      rw [List.take_succ_cons, List.take_zero, List.head?_cons]
      by_cases atOrigin : first.start? = some 0
      · rw [List.filter_cons_of_pos (by simpa using atOrigin), List.filter_nil]
        constructor
        · intro same
          cases same
          exact ⟨rfl, atOrigin⟩
        · rintro ⟨same, -⟩
          cases same
          rfl
      · rw [List.filter_cons_of_neg (by simpa using atOrigin), List.filter_nil]
        constructor
        · intro impossible
          cases impossible
        · rintro ⟨same, starts⟩
          cases same
          exact absurd starts atOrigin

/-! ## No limit -/

/-- A limit that no stream of some length reaches is no limit. -/
theorem selectResults_of_length_le
    {options : MatchOptions} {stream : List (Except EngineError CaptureRanges)} {limit : Nat}
    (enough : stream.length ≤ limit) :
    { options with limit := some limit }.selectResults stream =
      { options with limit := none }.selectResults stream := by
  induction stream generalizing limit with
  | nil => rfl
  | cons result remaining inductionHypothesis =>
      rw [List.length_cons] at enough
      obtain ⟨rest, rfl⟩ : ∃ rest, limit = rest + 1 := ⟨limit - 1, by omega⟩
      have wantedLimited : { options with limit := some (rest + 1) }.Wants 0 := by
        rintro limit ⟨⟩
        omega
      have wantedUnlimited : { options with limit := none }.Wants 0 := by
        rintro limit ⟨⟩
      cases result with
      | error failure =>
          rw [selectResults_failure wantedLimited, selectResults_failure wantedUnlimited]
      | ok ranges =>
          by_cases accepted : options.accepts ranges = true
          · have later := @inductionHypothesis rest (by omega)
            rw [selectResults_accepted wantedLimited accepted,
              selectResults_accepted wantedUnlimited accepted]
            exact congrArg (Except.map (ranges :: ·)) later
          · have refused (bound : Option Nat) :
                { options with limit := bound }.selectResults (.ok ranges :: remaining) =
                  .ok [] :=
              @selectResults_refused { options with limit := bound } ranges accepted remaining
            rw [refused, refused]

/-- What both engines select, for every stream of search results and all options. A
match is accepted if it starts at the origin, or if that is not asked for. A stream
that may fail ends in a failure exactly when the selection looks at one; otherwise it
yields the wanted matches of the longest run of accepted ones. A stream that cannot
fail yields the same. Anchored selection from matches that start one after the other
yields at most the first one, namely when it starts at the origin. Streams of machine
size need no limit beyond the greatest machine word. -/
theorem selection_outcome (options : MatchOptions) :
    (∀ ranges, options.accepts ranges = true ↔
      (options.anchored = true → ranges.start? = some 0)) ∧
    (∀ stream error, options.selectResults stream = .error error ↔
      ∃ position, options.FailsAt stream position error) ∧
    (∀ stream, (∀ position error, ¬ options.FailsAt stream position error) →
      ∃ run, options.IsLongestRun stream run ∧
        options.selectResults stream = .ok (options.cut run)) ∧
    (∀ found : List CaptureRanges,
      options.selectResults (found.map .ok) = .ok (options.selectMatches found)) ∧
    (∀ found : List CaptureRanges, options.anchored = true →
      found.Pairwise CaptureRanges.StartsBefore →
      (options.selectMatches found).length ≤ 1 ∧
        (options.limit ≠ some 0 → ∀ ranges, options.selectMatches found = [ranges] ↔
          found.head? = some ranges ∧ ranges.start? = some 0)) ∧
    (∀ stream : List (Except EngineError CaptureRanges), stream.length < UInt64.size →
      { options with limit := some (UInt64.size - 1) }.selectResults stream =
        { options with limit := none }.selectResults stream) ∧
    (∀ compiled subject world, linearEngine.execute compiled subject options world =
      (.ok (options.selectMatches (compiled.allMatches subject)), world)) ∧
    (∀ compiled subject world, lookaroundEngine.execute compiled subject options world =
      (options.selectResults (compiled.results subject), world)) := by
  refine ⟨fun ranges => accepts_iff, fun stream error => selectResults_eq_error_iff, ?_,
    selectResults_map_ok options, fun found => selectMatches_of_anchored, ?_,
    fun _ _ _ => rfl, fun _ _ _ => rfl⟩
  · intro stream sound
    exact ⟨options.acceptedRun stream, acceptedRun_isLongestRun options stream,
      selectResults_of_no_failure sound⟩
  · intro stream small
    exact selectResults_of_length_le (by omega)

/-- A failure behind two matches is not looked at when two are all that is wanted, nor
when the second one is refused; it is when a third one is wanted. -/
theorem selection_outcome_around_failure :
    let first : CaptureRanges := [some ⟨0, 1⟩]
    let second : CaptureRanges := [some ⟨1, 2⟩, none]
    let stream : List (Except EngineError CaptureRanges) :=
      [.ok first, .ok second, .error .exhausted, .ok first]
    let two : MatchOptions := { limit := some 2 }
    let three : MatchOptions := { limit := some 3 }
    let anchored : MatchOptions := { anchored := true }
    (∀ position error, ¬ two.FailsAt stream position error) ∧
    (∃ run, two.IsLongestRun stream run ∧ two.cut run = [first, second]) ∧
    (∃ position, three.FailsAt stream position .exhausted) ∧
    anchored.accepts second = false ∧
    (∀ position error, ¬ anchored.FailsAt stream position error) ∧
    anchored.selectResults stream = .ok [first] := by
  intro first second stream two three anchored
  obtain ⟨-, twoFails, twoYields, -⟩ := two.selection_outcome
  obtain ⟨-, threeFails, -⟩ := three.selection_outcome
  obtain ⟨accepts, anchoredFails, -⟩ := anchored.selection_outcome
  have twoSound : ∀ position error, ¬ two.FailsAt stream position error := by
    intro position error fails
    cases (twoFails stream error).mpr ⟨position, fails⟩
  have anchoredSound : ∀ position error, ¬ anchored.FailsAt stream position error := by
    intro position error fails
    cases (anchoredFails stream error).mpr ⟨position, fails⟩
  have refused : anchored.accepts second = false := by
    rw [Bool.eq_false_iff, ne_eq, accepts]
    intro starts
    cases starts rfl
  obtain ⟨run, longest, selected⟩ := twoYields stream twoSound
  have whole : two.selectResults stream = .ok [first, second] := rfl
  rw [whole] at selected
  exact ⟨twoSound, ⟨run, longest, (Except.ok.inj selected).symm⟩,
    (threeFails stream .exhausted).mp rfl, refused, anchoredSound, rfl⟩

end MatchOptions

end NamedCapture
