import NamedCapture.Proofs.Batches
import NamedCapture.Proofs.LifeCycle

/-!
Contract: what a run of requests leaves in the log, on an engine whose calls may
have any outcome.

Owns:
- the agreement of an answer with the records at the level of errors;
- the record of a compilation, turn by turn and over a run;
- the matches that the records of a turn speak of.

Does not own: the wording of a record, or what the engine is asked for.
-/

namespace NamedCapture

variable {Answer Recast World Compiled : Type}

/-! ## Records that tell of an outcome -/

/-- The record that goes with an outcome: that of its error, if it has one. -/
def report? : Except CaptureError Answer → Option Record
  | .ok _ => none
  | .error error => Record.ofError? error

theorem report?_map (outcome : Except CaptureError Answer) (recast : Answer → Recast) :
    report? (outcome.map recast) = report? outcome := by
  cases outcome <;> rfl

theorem report?_eq_some_iff {outcome : Except CaptureError Answer} {record : Record} :
    report? outcome = some record ↔
      ∃ error, outcome = .error error ∧ Reports error record := by
  cases outcome with
  | ok answer => simp [report?]
  | error error =>
      constructor
      · intro found
        exact ⟨error, rfl, Reports.of_ofError? found⟩
      · intro ⟨other, same, reports⟩
        rw [Except.error.inj same]
        exact reports.ofError?_eq

theorem eq_error_of_map
    {outcome : Except CaptureError Answer} {recast : Answer → Recast} {error : CaptureError}
    (failed : outcome.map recast = .error error) : outcome = .error error := by
  cases outcome with
  | ok answer => cases failed
  | error other => rw [Except.error.inj failed]

/-- Records agree with an outcome. What goes with the outcome stands last, and
nothing else is on record at the level of errors. -/
def TellsOf (outcome : Except CaptureError Answer) (records : List Record) : Prop :=
  ∃ earlier, records = earlier ++ (report? outcome).toList ∧
    ∀ record ∈ earlier, record.level ≠ .error

namespace TellsOf

theorem of_ok (answer : Answer) {records : List Record}
    (low : ∀ record ∈ records, record.level ≠ .error) : TellsOf (.ok answer) records :=
  ⟨records, (List.append_nil records).symm, low⟩

theorem of_error (error : CaptureError) :
    TellsOf (.error error : Except CaptureError Answer) (Record.ofError? error).toList :=
  ⟨[], rfl, by simp⟩

variable {outcome : Except CaptureError Answer} {records : List Record}

/-- Records below the level of errors may come first. -/
theorem append (tells : TellsOf outcome records) {leading : List Record}
    (low : ∀ record ∈ leading, record.level ≠ .error) : TellsOf outcome (leading ++ records) := by
  obtain ⟨earlier, recordsEq, earlierLow⟩ := tells
  refine ⟨leading ++ earlier, by rw [recordsEq, List.append_assoc], ?_⟩
  rw [List.forall_mem_append]
  exact ⟨low, earlierLow⟩

theorem map (tells : TellsOf outcome records) (recast : Answer → Recast) :
    TellsOf (outcome.map recast) records := by
  unfold TellsOf
  rw [report?_map]
  exact tells

theorem low_of_ok {answer : Answer} (tells : TellsOf (.ok answer) records) :
    ∀ record ∈ records, record.level ≠ .error := by
  obtain ⟨earlier, recordsEq, low⟩ := tells
  rw [recordsEq]
  simpa [report?] using low

/-- There is a record at the level of errors exactly when the outcome is an error
that comes with a record. -/
theorem exists_error_iff (tells : TellsOf outcome records) :
    (∃ record ∈ records, record.level = .error) ↔
      ∃ error record, outcome = .error error ∧ Reports error record := by
  obtain ⟨earlier, recordsEq, low⟩ := tells
  rw [recordsEq, exists_comm]
  apply exists_congr
  intro record
  rw [← report?_eq_some_iff, List.mem_append, Option.mem_toList]
  constructor
  · intro ⟨member, level⟩
    rcases member with member | last
    · exact absurd level (low record member)
    · exact last
  · intro last
    obtain ⟨_, _, reports⟩ := report?_eq_some_iff.mp last
    exact ⟨.inr last, reports.level_eq⟩

/-- That record is the last one, and the only one of its level. -/
theorem exists_earlier (tells : TellsOf outcome records) {error : CaptureError}
    {record : Record} (failed : outcome = .error error) (reports : Reports error record) :
    ∃ earlier, records = earlier ++ [record] ∧ ∀ other ∈ earlier, other.level ≠ .error := by
  obtain ⟨earlier, recordsEq, low⟩ := tells
  rw [report?_eq_some_iff.mpr ⟨error, failed, reports⟩] at recordsEq
  exact ⟨earlier, recordsEq, low⟩

end TellsOf

/-! ## Records of mapped matches -/

/-- Whether a record is that of a compilation. -/
def Record.isCompilation : Record → Bool
  | .compiled _ => true
  | .analysed _ _ _ | .misaligned _ _ | .unsliceable _ _ _ | .mapped _ _ => false

theorem Record.isCompilation_of_mem_ofError? {error : CaptureError} {record : Record}
    (member : record ∈ (ofError? error).toList) : record.isCompilation = false := by
  cases error with
  | pattern _ | compilation _ | execution _ => cases member
  | alignment _ _ | invalidRange _ _ _ =>
      rw [List.mem_singleton.mp member]
      rfl

theorem isCompilation_of_mem_mapMatchRecords
    {ranges : CaptureRanges} {outcome : Except CaptureError View} {record : Record}
    (member : record ∈ mapMatchRecords ranges outcome) : record.isCompilation = false := by
  cases outcome with
  | ok view =>
      rw [List.mem_singleton.mp member]
      rfl
  | error error => exact Record.isCompilation_of_mem_ofError? member

section Matches

variable {subject : Text} {table : GroupTable}

theorem mapMatches_tellsOf (subject : Text) (table : GroupTable) (found : List CaptureRanges) :
    TellsOf (mapMatches subject table found).1 (mapMatches subject table found).2 := by
  induction found with
  | nil => exact ⟨[], rfl, by simp⟩
  | cons ranges found inductionHypothesis =>
      cases outcome : mapMatch subject ranges table with
      | ok view =>
          rw [mapMatches_of_mapped found outcome]
          have low : ∀ record ∈ [Record.mapped view.size ranges.head?], record.level ≠ .error := by
            simp [Record.level]
          exact (inductionHypothesis.map (view :: ·)).append low
      | error error =>
          obtain ⟨record, reports⟩ := exists_reports_of_mapMatch outcome
          rw [mapMatches_of_failed found reports outcome]
          show TellsOf _ (some record).toList
          rw [← reports.ofError?_eq]
          exact .of_error error

/-- Every record of a mapping is one that some match gave rise to. -/
theorem exists_of_mem_mapMatches_records {found : List CaptureRanges} {record : Record}
    (member : record ∈ (mapMatches subject table found).2) :
    ∃ ranges ∈ found, record ∈ mapMatchRecords ranges (mapMatch subject ranges table) := by
  induction found with
  | nil => cases member
  | cons ranges found inductionHypothesis =>
      rw [mapMatches] at member
      cases outcome : mapMatch subject ranges table with
      | error error =>
          rw [outcome] at member
          exact ⟨ranges, by simp, by rw [outcome]; exact member⟩
      | ok view =>
          rw [outcome] at member
          rcases List.mem_append.mp member with member | member
          · exact ⟨ranges, by simp, by rw [outcome]; exact member⟩
          · obtain ⟨other, otherMember, otherRecord⟩ := inductionHypothesis member
            exact ⟨other, List.mem_cons_of_mem _ otherMember, otherRecord⟩

/-- Mapping fails only with an error that comes with a record. -/
theorem exists_reports_of_mapMatches {found : List CaptureRanges} {error : CaptureError}
    (failed : (mapMatches subject table found).1 = .error error) :
    ∃ record, Reports error record := by
  by_cases mapped : ∃ views, MapsTo subject table found views
  · obtain ⟨views, maps⟩ := mapped
    rw [mapMatches_of_mapsTo maps] at failed
    cases failed
  · obtain ⟨_, other, first⟩ := exists_isFirstFailure mapped
    obtain ⟨_, record, _, reports, outcome⟩ := first.mapMatches_eq
    rw [outcome] at failed
    rw [← Except.error.inj failed]
    exact ⟨record, reports⟩

end Matches

/-- The subject and the options that a request searches with. A request for one
match sets the limit itself. -/
def Request.search? : Request → Option (Text × MatchOptions)
  | .describe | .group _ | .compile => none
  | .captures subject options => some (subject, { options with limit := some 1 })
  | .capturesAll subject options => some (subject, options)

namespace NamedExpression

variable {engine : Engine World Compiled} {expression : NamedExpression Compiled}
  {world : World}

/-! ## Records of one turn -/

theorem records_of_refused {error : CaptureError}
    (refused : (expression.compile engine world).answer = .error error) :
    (expression.compile engine world).records = (Record.ofError? error).toList := by
  unfold compile at refused ⊢
  split
  · rename_i held
    rw [held] at refused
    cases refused
  · rename_i empty
    simp only [empty] at refused ⊢
    split at refused
    · cases refused
      rfl
    · split at refused
      · cases refused
        rfl
      · cases refused

theorem compile_tellsOf
    (expression : NamedExpression Compiled) (engine : Engine World Compiled) (world : World) :
    TellsOf (expression.compile engine world).answer
      (expression.compile engine world).records := by
  cases ready : (expression.compile engine world).answer with
  | error error =>
      rw [records_of_refused ready]
      exact .of_error error
  | ok compiled =>
      rw [records_of_compile ready]
      apply TellsOf.of_ok
      split <;> simp [Record.level]

/-- A compiled form is at hand exactly when it is held from then on. -/
theorem compile_answer_eq_ok_iff {compiled : Compiled} :
    (expression.compile engine world).answer = .ok compiled ↔
      (expression.compile engine world).expression.compiled = some compiled := by
  cases held : expression.compiled with
  | some kept =>
      rw [compile_of_compiled held]
      simp [held]
  | none =>
      obtain ⟨expressionEq, -, -, answerEq⟩ := compile_of_empty engine world held
      rw [expressionEq, answerEq]
      cases engine.verdict expression.table.size (expression.attempt engine world).1 with
      | error error => simp [Except.toOption]
      | ok candidate => simp [Except.toOption]

/-- What a request for all matches comes to, once the compiled form has been asked
for: the failure to get it, the failure of the search, or the mapping of what the
search found. -/
inductive ComesTo
    (engine : Engine World Compiled) (table : GroupTable) (subject : Text)
    (options : MatchOptions) (ready : Turn World Compiled Compiled)
    (turn : Turn World Compiled (List View)) : Prop where
  | refused
      (error : CaptureError)
      (refusal : ready.answer = .error error)
      (answerEq : turn.answer = .error error)
      (recordsEq : turn.records = ready.records)
  | interrupted
      (compiled : Compiled) (cause : EngineError)
      (readyEq : ready.answer = .ok compiled)
      (answerEq : turn.answer = .error (.execution cause))
      (recordsEq : turn.records = ready.records)
  | mapped
      (compiled : Compiled) (found : List CaptureRanges)
      (readyEq : ready.answer = .ok compiled)
      (callsEq : turn.calls = ready.calls ++ [.execute compiled subject options])
      (executed : (engine.execute compiled subject options ready.world).1 = .ok found)
      (answerEq : turn.answer = (mapMatches subject table found).1)
      (recordsEq : turn.records = ready.records ++ (mapMatches subject table found).2)

theorem capturesAll_comesTo
    (expression : NamedExpression Compiled) (engine : Engine World Compiled)
    (subject : Text) (options : MatchOptions) (world : World) :
    ComesTo engine expression.table subject options (expression.compile engine world)
      (expression.capturesAll engine subject options world) := by
  rw [capturesAll]
  cases readyEq : (expression.compile engine world).answer with
  | error error => exact .refused error readyEq rfl rfl
  | ok compiled =>
      simp only
      split
      · rename_i cause after _
        exact .interrupted compiled cause readyEq rfl rfl
      · rename_i found after executed
        apply ComesTo.mapped compiled found readyEq rfl _ rfl rfl
        rw [executed]

theorem capturesAll_tellsOf
    (expression : NamedExpression Compiled) (engine : Engine World Compiled)
    (subject : Text) (options : MatchOptions) (world : World) :
    TellsOf (expression.capturesAll engine subject options world).answer
      (expression.capturesAll engine subject options world).records := by
  have readyTells := compile_tellsOf expression engine world
  cases capturesAll_comesTo expression engine subject options world with
  | refused error refusal answerEq recordsEq =>
      rw [answerEq, recordsEq, records_of_refused refusal]
      exact .of_error error
  | interrupted compiled cause readyEq answerEq recordsEq =>
      rw [readyEq] at readyTells
      rw [answerEq, recordsEq]
      exact ⟨_, (List.append_nil _).symm, readyTells.low_of_ok⟩
  | mapped compiled found readyEq _ _ answerEq recordsEq =>
      rw [readyEq] at readyTells
      rw [answerEq, recordsEq]
      exact (mapMatches_tellsOf subject expression.table found).append readyTells.low_of_ok

/-- The records of every turn tell of its answer. -/
theorem perform_tellsOf
    (expression : NamedExpression Compiled) (engine : Engine World Compiled) (world : World)
    (request : Request) :
    TellsOf (expression.perform engine world request).answer
      (expression.perform engine world request).records := by
  cases request with
  | describe => exact ⟨[], rfl, by simp⟩
  | group index => exact ⟨[], rfl, by simp⟩
  | compile => exact (compile_tellsOf expression engine world).map _
  | captures subject options =>
      exact ((capturesAll_tellsOf expression engine subject _ world).map _).map _
  | capturesAll subject options =>
      exact (capturesAll_tellsOf expression engine subject options world).map _

/-- An error of the engine on compiling is answered only when the attempt to compile
ended in it. -/
theorem compile_answer_of_capturesAll
    {subject : Text} {options : MatchOptions} {cause : EngineError}
    (answered : (expression.capturesAll engine subject options world).answer =
      .error (.compilation cause)) :
    (expression.compile engine world).answer = .error (.compilation cause) := by
  cases capturesAll_comesTo expression engine subject options world with
  | refused error refusal answerEq =>
      rw [answered] at answerEq
      rw [refusal, Except.error.inj answerEq]
  | interrupted _ _ _ answerEq =>
      rw [answered] at answerEq
      cases answerEq
  | mapped _ found _ _ _ answerEq =>
      rw [answered] at answerEq
      obtain ⟨record, reports⟩ := exists_reports_of_mapMatches answerEq.symm
      cases reports

theorem compile_answer_of_perform {request : Request} {cause : EngineError}
    (answered : (expression.perform engine world request).answer =
      .error (.compilation cause)) :
    (expression.compile engine world).answer = .error (.compilation cause) := by
  cases request with
  | describe => cases answered
  | group index => cases answered
  | compile => exact eq_error_of_map answered
  | captures subject options =>
      exact compile_answer_of_capturesAll (eq_error_of_map (eq_error_of_map answered))
  | capturesAll subject options =>
      exact compile_answer_of_capturesAll (eq_error_of_map answered)

/-- Where the records of a request come from, beyond those of getting the compiled
form ready: from nowhere, or from the matches that its own search found. -/
inductive Adds
    (engine : Engine World Compiled) (table : GroupTable) (search? : Option (Text × MatchOptions))
    (ready : Turn World Compiled Compiled) (turn : Turn World Compiled Answer) : Prop where
  | nothing
      (recordsEq : turn.records = ready.records)
  | mapping
      (compiled : Compiled) (subject : Text) (options : MatchOptions)
      (found : List CaptureRanges)
      (readyEq : ready.answer = .ok compiled)
      (searchEq : search? = some (subject, options))
      (callsEq : turn.calls = ready.calls ++ [.execute compiled subject options])
      (executed : (engine.execute compiled subject options ready.world).1 = .ok found)
      (recordsEq : turn.records = ready.records ++ (mapMatches subject table found).2)

section Adds

variable {table : GroupTable} {search? : Option (Text × MatchOptions)}
  {ready : Turn World Compiled Compiled} {turn : Turn World Compiled Answer}

theorem Adds.mapAnswer (adds : Adds engine table search? ready turn) (recast : Answer → Recast) :
    Adds engine table search? ready (turn.mapAnswer recast) := by
  cases adds with
  | nothing recordsEq => exact .nothing recordsEq
  | mapping compiled subject options found readyEq searchEq callsEq executed recordsEq =>
      exact .mapping compiled subject options found readyEq searchEq callsEq executed recordsEq

/-- Without a compiled form nothing is searched, and nothing more goes on record. -/
theorem Adds.records_eq (adds : Adds engine table search? ready turn) {error : CaptureError}
    (refused : ready.answer = .error error) : turn.records = ready.records := by
  cases adds with
  | nothing recordsEq => exact recordsEq
  | mapping _ _ _ _ readyEq =>
      rw [refused] at readyEq
      cases readyEq

/-- Mapping puts no compilation on record. -/
theorem Adds.exists_records (adds : Adds engine table search? ready turn) :
    ∃ later, turn.records = ready.records ++ later ∧
      ∀ record ∈ later, record.isCompilation = false := by
  cases adds with
  | nothing recordsEq => exact ⟨[], by rw [recordsEq, List.append_nil], by simp⟩
  | mapping _ subject _ found _ _ _ _ recordsEq =>
      refine ⟨(mapMatches subject table found).2, recordsEq, ?_⟩
      intro record member
      obtain ⟨ranges, -, fromMatch⟩ := exists_of_mem_mapMatches_records member
      exact isCompilation_of_mem_mapMatchRecords fromMatch

end Adds

theorem capturesAll_adds
    (expression : NamedExpression Compiled) (engine : Engine World Compiled)
    (subject : Text) (options : MatchOptions) (world : World) :
    Adds engine expression.table (some (subject, options)) (expression.compile engine world)
      (expression.capturesAll engine subject options world) := by
  cases capturesAll_comesTo expression engine subject options world with
  | refused _ _ _ recordsEq => exact .nothing recordsEq
  | interrupted _ _ _ _ recordsEq => exact .nothing recordsEq
  | mapped compiled found readyEq callsEq executed _ recordsEq =>
      exact .mapping compiled subject options found readyEq rfl callsEq executed recordsEq

theorem perform_adds
    (expression : NamedExpression Compiled) (engine : Engine World Compiled) (world : World)
    {request : Request} (uses : request.usesEngine = true) :
    Adds engine expression.table request.search? (expression.compile engine world)
      (expression.perform engine world request) := by
  cases request with
  | describe => cases uses
  | group index => cases uses
  | compile => exact .nothing rfl
  | captures subject options =>
      exact ((capturesAll_adds expression engine subject _ world).mapAnswer _).mapAnswer _
  | capturesAll subject options =>
      exact (capturesAll_adds expression engine subject options world).mapAnswer _

theorem records_of_idle
    (expression : NamedExpression Compiled) (engine : Engine World Compiled) (world : World)
    {request : Request} (unused : request.usesEngine = false) :
    (expression.perform engine world request).records = [] := by
  cases request with
  | describe => rfl
  | group index => rfl
  | compile => cases unused
  | captures subject options => cases unused
  | capturesAll subject options => cases unused

/-! ## What every turn keeps -/

/-- The discipline of one turn of an expression over an analysis and compile
switches, in whatever state the turns before it left the expression and the
engine. -/
structure KeepsLog
    (analysis : Analysis) (options : CompileOptions) (engine : Engine World Compiled)
    (expression : NamedExpression Compiled) (world : World) (request : Request)
    (turn : Turn World Compiled (Response Compiled)) : Prop where
  /-- A turn that comes to hold a compiled form has its compilation on record,
  first and once. -/
  filled : expression.compiled = none → turn.expression.compiled.isSome →
    ∃ later, turn.records = .compiled analysis.simplified :: later ∧
      ∀ record ∈ later, record.isCompilation = false
  /-- No other turn has a compilation on record. -/
  unfilled : expression.compiled.isSome ∨ turn.expression.compiled = none →
    ∀ record ∈ turn.records, record.isCompilation = false
  /-- An error of the engine on compiling leaves no record. -/
  rejected : ∀ error, turn.answer = .error (.compilation error) → turn.records = []
  /-- A compiled form whose groups disagree with the table leaves the record of
  the disagreement and no other. -/
  misaligned : ∀ compiled, expression.compiled = none → request.usesEngine = true →
    (engine.compile analysis.simplified options world).1 = .ok compiled →
    engine.captureSlots compiled - 1 ≠ analysis.table.size →
      turn.answer =
        .error (.alignment analysis.table.size (engine.captureSlots compiled - 1)) ∧
      turn.records = [.misaligned analysis.table.size (engine.captureSlots compiled - 1)]
  /-- There is a record at the level of errors exactly when the answer is a
  disagreement on the groups or a range that slices nothing. -/
  alarmed : (∃ record ∈ turn.records, record.level = .error) ↔
    ∃ error record, turn.answer = .error error ∧ Reports error record
  /-- That record names the numbers of the answer, stands last, and is the only one
  of its level. -/
  last : ∀ error record, turn.answer = .error error → Reports error record →
    ∃ earlier, turn.records = earlier ++ [record] ∧ ∀ other ∈ earlier, other.level ≠ .error
  /-- With a compiled form already held, the records are those of mapping what this
  turn's own search found, and each is one that a match found there gave rise to. -/
  mapped : ∀ compiled, expression.compiled = some compiled →
    turn.records = [] ∨
      ∃ subject selection found,
        request.search? = some (subject, selection) ∧
        turn.calls = [.execute compiled subject selection] ∧
        (engine.execute compiled subject selection world).1 = .ok found ∧
        turn.records = (mapMatches subject analysis.table found).2 ∧
        ∀ record ∈ turn.records, ∃ ranges ∈ found,
          record ∈ mapMatchRecords ranges (mapMatch subject ranges analysis.table)

theorem filled_of_perform
    {request : Request} (empty : expression.compiled = none)
    (after : (expression.perform engine world request).expression.compiled.isSome) :
    ∃ later,
      (expression.perform engine world request).records =
        .compiled expression.simplified :: later ∧
      ∀ record ∈ later, record.isCompilation = false := by
  cases used : request.usesEngine with
  | false =>
      obtain ⟨-, expressionEq⟩ :=
        (perform_transition engine expression world request).idled used
      rw [expressionEq, empty] at after
      cases after
  | true =>
      rw [(perform_continues expression engine world used).expression] at after
      obtain ⟨compiled, held⟩ := Option.isSome_iff_exists.mp after
      obtain ⟨later, recordsEq, quiet⟩ :=
        (perform_adds expression engine world used).exists_records
      rw [records_of_compile (compile_answer_eq_ok_iff.mpr held), empty] at recordsEq
      exact ⟨later, recordsEq, quiet⟩

theorem unfilled_of_perform
    {request : Request}
    (unfilled : expression.compiled.isSome ∨
      (expression.perform engine world request).expression.compiled = none) :
    ∀ record ∈ (expression.perform engine world request).records,
      record.isCompilation = false := by
  cases used : request.usesEngine with
  | false =>
      rw [records_of_idle expression engine world used]
      simp
  | true =>
      obtain ⟨later, recordsEq, quiet⟩ :=
        (perform_adds expression engine world used).exists_records
      rw [(perform_continues expression engine world used).expression] at unfilled
      rw [recordsEq, List.forall_mem_append]
      refine ⟨?_, quiet⟩
      cases ready : (expression.compile engine world).answer with
      | error error =>
          rw [records_of_refused ready]
          intro record member
          exact Record.isCompilation_of_mem_ofError? member
      | ok compiled =>
          rw [compile_answer_eq_ok_iff.mp ready] at unfilled
          have held : expression.compiled.isSome := by
            rcases unfilled with held | impossible
            · exact held
            · cases impossible
          rw [records_of_compile ready, if_pos held]
          simp

theorem perform_keepsLog
    (expression : NamedExpression Compiled) (engine : Engine World Compiled) (world : World)
    (request : Request) :
    KeepsLog expression.analysis expression.options engine expression world request
      (expression.perform engine world request) where
  filled := filled_of_perform
  unfilled := unfilled_of_perform
  rejected error answered := by
    cases used : request.usesEngine with
    | false => exact records_of_idle expression engine world used
    | true =>
        have refused := compile_answer_of_perform answered
        rw [(perform_adds expression engine world used).records_eq refused,
          records_of_refused refused]
        rfl
  misaligned compiled empty used attempted differs := by
    have verdictEq : engine.verdict expression.table.size
        (expression.attempt engine world).1 =
          .error (.alignment expression.table.size (engine.captureSlots compiled - 1)) := by
      rw [attempt, simplified, attempted]
      exact Engine.verdict_of_misaligned differs
    obtain ⟨-, -, -, refused⟩ := compile_of_empty engine world empty
    rw [verdictEq] at refused
    obtain ⟨answerEq, -, -⟩ := (perform_continues expression engine world used).failed _ refused
    refine ⟨answerEq, ?_⟩
    rw [(perform_adds expression engine world used).records_eq refused,
      records_of_refused refused]
    rfl
  alarmed := (perform_tellsOf expression engine world request).exists_error_iff
  last _ _ failed reports :=
    (perform_tellsOf expression engine world request).exists_earlier failed reports
  mapped compiled held := by
    cases used : request.usesEngine with
    | false => exact .inl (records_of_idle expression engine world used)
    | true =>
        have adds := perform_adds expression engine world used
        rw [compile_of_compiled held] at adds
        cases adds with
        | nothing recordsEq => exact .inl recordsEq
        | mapping other subject selection found readyEq searchEq callsEq executed recordsEq =>
            cases readyEq
            refine .inr ⟨subject, selection, found, searchEq, callsEq, executed, recordsEq, ?_⟩
            intro record member
            rw [recordsEq] at member
            exact exists_of_mem_mapMatches_records member

/-! ## The log of a run -/

/-- How many compilations some turns have on record. -/
def recordedCompilations (turns : List (Turn World Compiled Answer)) : Nat :=
  (turns.flatMap Turn.records).countP Record.isCompilation

theorem recordedCompilations_cons
    (turn : Turn World Compiled Answer) (turns : List (Turn World Compiled Answer)) :
    recordedCompilations (turn :: turns) =
      turn.records.countP Record.isCompilation + recordedCompilations turns := by
  rw [recordedCompilations, List.flatMap_cons, List.countP_append]
  rfl

theorem countP_isCompilation_of_unfilled {records : List Record}
    (none : ∀ record ∈ records, record.isCompilation = false) :
    records.countP Record.isCompilation = 0 := by
  rw [List.countP_eq_zero]
  intro record member
  rw [none record member]
  exact Bool.false_ne_true

theorem recordedCompilations_of_compiled {compiled : Compiled}
    (held : expression.compiled = some compiled) (world : World) (requests : List Request) :
    recordedCompilations (expression.performAll engine world requests) = 0 := by
  induction requests generalizing world with
  | nil => rfl
  | cons request requests inductionHypothesis =>
      obtain ⟨expressionEq, -⟩ :=
        (perform_transition engine expression world request).kept held
      have filledBefore : expression.compiled.isSome := by
        rw [held]
        rfl
      rw [performAll, recordedCompilations_cons, expressionEq, inductionHypothesis,
        countP_isCompilation_of_unfilled (unfilled_of_perform (.inl filledBefore))]

/-- A run from an expression without a compiled form has one compilation on record
once it holds one, and none before. -/
theorem recordedCompilations_of_empty
    (engine : Engine World Compiled) (empty : expression.compiled = none) (world : World)
    (requests : List Request) :
    recordedCompilations (expression.performAll engine world requests) =
      if (expression.after engine world requests).1.compiled.isSome then 1 else 0 := by
  induction requests generalizing expression world with
  | nil =>
      rw [after, empty]
      rfl
  | cons request requests inductionHypothesis =>
      rw [performAll, recordedCompilations_cons, after]
      cases held : (expression.perform engine world request).expression.compiled with
      | none =>
          rw [countP_isCompilation_of_unfilled (unfilled_of_perform (.inr held)), Nat.zero_add]
          exact inductionHypothesis held _
      | some compiled =>
          obtain ⟨later, recordsEq, quiet⟩ := filled_of_perform empty (by rw [held]; rfl)
          have lasting :
              ((expression.perform engine world request).expression.after engine
                (expression.perform engine world request).world requests).1 =
                  (expression.perform engine world request).expression :=
            (after_of_compiled held _ requests).1
          rw [recordedCompilations_of_compiled held, recordsEq, List.countP_cons_of_pos rfl,
            countP_isCompilation_of_unfilled quiet, lasting, held]
          rfl

/-- The discipline of every run from an expression. -/
structure KeepsLogThroughout
    (analysis : Analysis) (options : CompileOptions) (engine : Engine World Compiled)
    (expression : NamedExpression Compiled) (world : World) : Prop where
  /-- Every turn of a run keeps the discipline of one turn. -/
  turns : ∀ finished request remaining,
    expression.performAll engine world (finished ++ request :: remaining) =
      expression.performAll engine world finished ++
        (expression.after engine world finished).1.perform engine
            (expression.after engine world finished).2 request ::
          (expression.after engine world (finished ++ [request])).1.performAll engine
            (expression.after engine world (finished ++ [request])).2 remaining ∧
    KeepsLog analysis options engine (expression.after engine world finished).1
      (expression.after engine world finished).2 request
      ((expression.after engine world finished).1.perform engine
        (expression.after engine world finished).2 request)
  /-- A run has one compilation on record once a compiled form is held, and none
  before. -/
  counted : ∀ requests,
    recordedCompilations (expression.performAll engine world requests) =
      if (expression.after engine world requests).1.compiled.isSome then 1 else 0

theorem DescendsFrom.keepsLogThroughout
    {analysis : Analysis} {options : CompileOptions}
    (origin : DescendsFrom analysis options engine expression)
    (empty : expression.compiled = none) (world : World) :
    KeepsLogThroughout analysis options engine expression world where
  turns finished request remaining := by
    have reached := origin.after world finished
    have keeps := perform_keepsLog (expression.after engine world finished).1 engine
      (expression.after engine world finished).2 request
    rw [reached.analysisEq, reached.optionsEq] at keeps
    exact ⟨performAll_append_cons .., keeps⟩
  counted requests := recordedCompilations_of_empty engine empty world requests

/-- Taking in a pattern leaves the record of its analysis if the analysis succeeds,
and else none. An expression that was taken in keeps the discipline of the log on
every engine and under every sequence of requests. -/
theorem ofPattern_keepsLog
    (pattern : Text) (options : CompileOptions) (engine : Engine World Compiled)
    (world : World) :
    match ofPattern Compiled pattern options with
    | (.error _, records) => records = []
    | (.ok expression, records) =>
        records = [.analysed pattern expression.table.size expression.simplified] ∧
        KeepsLogThroughout expression.analysis options engine expression world := by
  rw [ofPattern]
  cases analysed : analyze pattern with
  | error error => rfl
  | ok analysis =>
      exact ⟨rfl, (DescendsFrom.of_empty rfl).keepsLogThroughout rfl world⟩

/-- An engine that takes the outcomes of its calls from two scripts: numbers of
capture slots for compilations, and matches for searches. -/
def recitingEngine :
    Engine (List (Except EngineError Nat) × List (Except EngineError (List CaptureRanges)))
      Nat where
  compile _ _ scripts :=
    match scripts with
    | ([], searches) => (.error .exhausted, ([], searches))
    | (outcome :: remaining, searches) => (outcome, (remaining, searches))
  captureSlots slots := slots
  execute _ _ _ scripts :=
    match scripts with
    | (compilations, []) => (.ok [], (compilations, []))
    | (compilations, outcome :: remaining) => (outcome, (compilations, remaining))

/-- An error, a wrong number of groups, then a compiled form and four searches: one
that fails, one match with too few ranges, a match before one that reaches past the
subject, and one that succeeds. -/
theorem ofPattern_keepsLog_recited :
    ∃ expression,
      ofPattern Nat ['(', 'a', ')'] {} =
        (.ok expression, [.analysed ['(', 'a', ')'] 1 ['(', 'a', ')']]) ∧
      let turns := expression.performAll recitingEngine
        ([.error (.oversized 9), .ok 5, .ok 2],
          [.error .exhausted, .ok [[none]],
            .ok [[some ⟨0, 1⟩, some ⟨0, 1⟩], [some ⟨0, 1⟩, some ⟨0, 7⟩]],
            .ok [[some ⟨0, 1⟩, none]]])
        [.compile, .captures ['a'] {}, .describe, .capturesAll ['a'] {}, .captures ['a'] {},
          .capturesAll ['a'] {}, .compile, .captures ['a'] {}]
      turns.map Turn.records =
        [[], [.misaligned 1 4], [], [.compiled ['(', 'a', ')']], [.misaligned 1 0],
          [.mapped 1 (some (some ⟨0, 1⟩)), .unsliceable 1 ⟨0, 7⟩ 1], [],
          [.mapped 1 (some (some ⟨0, 1⟩))]] ∧
      recordedCompilations turns = 1 := by
  obtain ⟨-, keeps⟩ := ofPattern_keepsLog ['(', 'a', ')'] {} recitingEngine
    ([.error (.oversized 9), .ok 5, .ok 2],
      [.error .exhausted, .ok [[none]],
        .ok [[some ⟨0, 1⟩, some ⟨0, 1⟩], [some ⟨0, 1⟩, some ⟨0, 7⟩]],
        .ok [[some ⟨0, 1⟩, none]]])
  exact ⟨_, rfl, rfl, keeps.counted _⟩

end NamedExpression

end NamedCapture
