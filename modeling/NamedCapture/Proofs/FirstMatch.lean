import NamedCapture.Proofs.Selection
import NamedCapture.Session

/-!
Contract: a request for one match answers what the first search result amounts
to, and nothing behind that result matters.

A request for one match is a request for all matches under a limit of one, of
which the last view is taken. Both engines honour that limit before they look at
another result.

Owns:
- the two engines, over an arbitrary search;
- what the first search result amounts to;
- the first of all views as the answer to a request for one match.

Does not own: the mapping of a match, or the compilation of a pattern.
-/

namespace NamedCapture

variable {World Compiled : Type}

/-! ## Engines over a search -/

namespace Engine

/-- The engine that selects from a search without failures. -/
def overMatches
    (compile : Text → CompileOptions → World → Except EngineError Compiled × World)
    (captureSlots : Compiled → Nat)
    (search : Compiled → Text → List CaptureRanges) :
    Engine World Compiled where
  compile := compile
  captureSlots := captureSlots
  execute compiled subject options world :=
    (.ok (options.selectMatches (search compiled subject)), world)

/-- The engine that selects from a search that may fail. -/
def overResults
    (compile : Text → CompileOptions → World → Except EngineError Compiled × World)
    (captureSlots : Compiled → Nat)
    (search : Compiled → Text → List (Except EngineError CaptureRanges)) :
    Engine World Compiled where
  compile := compile
  captureSlots := captureSlots
  execute compiled subject options world :=
    (options.selectResults (search compiled subject), world)

theorem linearEngine_eq_overMatches :
    linearEngine =
      overMatches (fun pattern options world => (LinearPattern.compile pattern options, world))
        LinearPattern.captureSlots LinearPattern.allMatches := rfl

theorem lookaroundEngine_eq_overResults :
    lookaroundEngine =
      overResults
        (fun pattern options world => (LookaroundPattern.compile pattern options, world))
        LookaroundPattern.captureSlots LookaroundPattern.results := rfl

/-- Whatever the options, an engine answers with what they select from the results
of a search. -/
def SelectsFrom
    (engine : Engine World Compiled)
    (search : Compiled → Text → List (Except EngineError CaptureRanges)) : Prop :=
  ∀ compiled subject options world,
    (engine.execute compiled subject options world).1 =
      options.selectResults (search compiled subject)

variable
  (compile : Text → CompileOptions → World → Except EngineError Compiled × World)
  (captureSlots : Compiled → Nat)

theorem overMatches_selectsFrom (search : Compiled → Text → List CaptureRanges) :
    (overMatches compile captureSlots search).SelectsFrom
      fun compiled subject => (search compiled subject).map .ok := by
  intro compiled subject options world
  exact (options.selectResults_map_ok _).symm

theorem overResults_selectsFrom
    (search : Compiled → Text → List (Except EngineError CaptureRanges)) :
    (overResults compile captureSlots search).SelectsFrom search := by
  intro compiled subject options world
  rfl

end Engine

/-! ## The first result -/

namespace MatchOptions

/-- Under a limit of one, nothing behind the first result is looked at. -/
theorem selectResults_limit_one
    (options : MatchOptions) (stream : List (Except EngineError CaptureRanges)) :
    { options with limit := some 1 }.selectResults stream =
      match stream.head? with
      | none => .ok []
      | some (.error error) => .error error
      | some (.ok ranges) => if options.accepts ranges then .ok [ranges] else .ok [] := by
  have wanted : { options with limit := some 1 }.Wants 0 := by
    rintro limit ⟨⟩
    exact Nat.one_pos
  have spent : ¬ { options with limit := some 1 }.afterMatch.Wants 0 := by
    intro wantedAgain
    exact absurd (wantedAgain 0 rfl) (Nat.lt_irrefl 0)
  cases stream with
  | nil => rfl
  | cons result remaining =>
      rw [List.head?_cons]
      cases result with
      | error error => exact selectResults_failure wanted error remaining
      | ok ranges =>
          by_cases accepted : options.accepts ranges = true
          · rw [selectResults_accepted wanted accepted, selectResults_of_satisfied spent]
            simp [accepted, Except.map]
          · have refused : ¬ { options with limit := some 1 }.accepts ranges = true := accepted
            rw [selectResults_refused refused]
            simp [accepted]

/-- What a search amounts to for a request for one match, given its first result. -/
def firstAnswer
    (options : MatchOptions)
    (subject : Text)
    (table : GroupTable) :
    Option (Except EngineError CaptureRanges) → Except CaptureError View
  | none => .ok View.empty
  | some (.error error) => .error (.execution error)
  | some (.ok ranges) =>
      if options.accepts ranges then mapMatch subject ranges table else .ok View.empty

end MatchOptions

theorem mapMatches_singleton (subject : Text) (table : GroupTable) (ranges : CaptureRanges) :
    (mapMatches subject table [ranges]).1 =
      (mapMatch subject ranges table).map fun view => [view] := by
  unfold mapMatches
  cases mapMatch subject ranges table <;> rfl

/-- Views of some matches start with the view of the first one. -/
theorem exists_view_of_mapMatches_cons
    {subject : Text} {table : GroupTable} {ranges : CaptureRanges}
    {found : List CaptureRanges} {views : List View}
    (mapped : (mapMatches subject table (ranges :: found)).1 = .ok views) :
    ∃ view later, views = view :: later ∧ mapMatch subject ranges table = .ok view := by
  unfold mapMatches at mapped
  cases outcome : mapMatch subject ranges table with
  | error error =>
      rw [outcome] at mapped
      cases mapped
  | ok view =>
      rw [outcome] at mapped
      simp only at mapped
      cases remaining : (mapMatches subject table found).1 with
      | error error =>
          rw [remaining] at mapped
          cases mapped
      | ok later =>
          rw [remaining] at mapped
          cases mapped
          exact ⟨view, later, rfl, rfl⟩

namespace NamedExpression

variable {engine : Engine World Compiled} {expression : NamedExpression Compiled}
  {world : World} {compiled : Compiled}
  {search : Compiled → Text → List (Except EngineError CaptureRanges)}

/-- Once there is a compiled form, the views are those of the selected results. -/
theorem capturesAll_answer
    (selects : engine.SelectsFrom search)
    (ready : (expression.compile engine world).answer = .ok compiled)
    (subject : Text) (options : MatchOptions) :
    (expression.capturesAll engine subject options world).answer =
      match options.selectResults (search compiled subject) with
      | .error error => .error (.execution error)
      | .ok found => (mapMatches subject expression.table found).1 := by
  have executed := selects compiled subject options (expression.compile engine world).world
  unfold capturesAll
  simp only [← executed, ready]
  split
  · rename_i error after failed
    rw [failed]
  · rename_i found after succeeded
    rw [succeeded]

/-- A request for one match answers what the first result amounts to. -/
theorem captures_answer
    (selects : engine.SelectsFrom search)
    (ready : (expression.compile engine world).answer = .ok compiled)
    (subject : Text) (options : MatchOptions) :
    (expression.captures engine subject options world).answer =
      options.firstAnswer subject expression.table (search compiled subject).head? := by
  unfold captures Turn.mapAnswer
  simp only
  rw [capturesAll_answer selects ready, MatchOptions.selectResults_limit_one]
  unfold MatchOptions.firstAnswer
  cases (search compiled subject).head? with
  | none => rfl
  | some result =>
      cases result with
      | error error => rfl
      | ok ranges =>
          simp only
          by_cases accepted : options.accepts ranges = true
          · rw [if_pos accepted, if_pos accepted]
            simp only
            rw [mapMatches_singleton]
            cases mapMatch subject ranges expression.table <;> rfl
          · rw [if_neg accepted, if_neg accepted]
            rfl

/-- When all views are there, the first one is what the first result amounts to. -/
theorem firstAnswer_of_capturesAll
    (selects : engine.SelectsFrom search)
    (ready : (expression.compile engine world).answer = .ok compiled)
    {subject : Text} {options : MatchOptions} {views : List View}
    (answered : (expression.capturesAll engine subject { options with limit := none }
      world).answer = .ok views) :
    options.firstAnswer subject expression.table (search compiled subject).head? =
      .ok (views.head?.getD View.empty) := by
  have unlimited : { options with limit := none }.Wants 0 := by
    rintro limit ⟨⟩
  rw [capturesAll_answer selects ready] at answered
  cases stream : search compiled subject with
  | nil =>
      rw [stream] at answered
      cases answered
      rfl
  | cons result remaining =>
      rw [stream] at answered
      rw [List.head?_cons]
      cases result with
      | error error =>
          rw [MatchOptions.selectResults_failure unlimited] at answered
          cases answered
      | ok ranges =>
          unfold MatchOptions.firstAnswer
          simp only
          by_cases accepted : { options with limit := none }.accepts ranges = true
          · rw [MatchOptions.selectResults_accepted unlimited accepted] at answered
            rw [if_pos (show options.accepts ranges = true from accepted)]
            -- The remaining results are selected without an error, since there are views.
            cases remainingEq :
                { options with limit := none }.afterMatch.selectResults remaining with
            | error error =>
                rw [remainingEq] at answered
                cases answered
            | ok found =>
                rw [remainingEq] at answered
                obtain ⟨view, later, rfl, mapped⟩ := exists_view_of_mapMatches_cons answered
                exact mapped
          · rw [MatchOptions.selectResults_refused accepted] at answered
            rw [if_neg (show ¬ options.accepts ranges = true from accepted)]
            cases answered
            rfl

/-! ## One match -/

/-- The contract of a request for one match, given the results of the search. -/
structure AnswersFirst
    (engine : Engine World Compiled) (results : List (Except EngineError CaptureRanges))
    (expression : NamedExpression Compiled) (world : World)
    (subject : Text) (options : MatchOptions) : Prop where
  /-- Without results the view is empty. -/
  nothing : results = [] →
    (expression.captures engine subject options world).answer = .ok View.empty
  /-- So it is when an anchored request is given a match that starts elsewhere. -/
  elsewhere : ∀ ranges later, results = .ok ranges :: later →
    options.anchored = true → ranges.start? ≠ some 0 →
    (expression.captures engine subject options world).answer = .ok View.empty
  /-- A failure of the search is reported if it comes first. -/
  failed : ∀ error later, results = .error error :: later →
    (expression.captures engine subject options world).answer = .error (.execution error)
  /-- Any other first match is mapped. -/
  mapped : ∀ ranges later, results = .ok ranges :: later →
    (options.anchored = true → ranges.start? = some 0) →
    (expression.captures engine subject options world).answer =
      mapMatch subject ranges expression.table
  /-- The limit of the options is of no account. -/
  anyLimit : ∀ limit,
    (expression.captures engine subject { options with limit := limit } world).answer =
      (expression.captures engine subject options world).answer
  /-- When a request for all matches succeeds, the answer is its first view. -/
  firstOfAll : ∀ views,
    (expression.capturesAll engine subject { options with limit := none } world).answer =
        .ok views →
      (expression.captures engine subject options world).answer =
        .ok (views.head?.getD View.empty)

theorem answersFirst_of_selectsFrom
    (selects : engine.SelectsFrom search)
    (ready : (expression.compile engine world).answer = .ok compiled)
    (subject : Text) (options : MatchOptions) :
    AnswersFirst engine (search compiled subject) expression world subject options := by
  have answer (any : MatchOptions) := captures_answer selects ready subject any
  refine ⟨?_, ?_, ?_, ?_, ?_, ?_⟩
  · intro nothing
    rw [answer, nothing]
    rfl
  · intro ranges later first anchored elsewhere
    have refused : ¬ options.accepts ranges = true := by
      rw [MatchOptions.accepts_iff]
      intro accepted
      exact elsewhere (accepted anchored)
    rw [answer, first]
    exact if_neg refused
  · intro error later first
    rw [answer, first]
    rfl
  · intro ranges later first accepted
    rw [answer, first]
    exact if_pos (MatchOptions.accepts_iff.mpr accepted)
  · intro limit
    rw [answer, answer]
    rfl
  · intro views answered
    rw [answer]
    exact firstAnswer_of_capturesAll selects ready answered

/-- On both engines, over any search, a request for one match on a pattern that
compiles answers what the first result of the search amounts to. Two searches with
the same first result cannot be told apart by it, whatever failures or matches come
later. -/
theorem captures_answersFirst
    {compile : Text → CompileOptions → World → Except EngineError Compiled × World}
    {captureSlots : Compiled → Nat} {expression : NamedExpression Compiled} {world : World}
    {compiled : Compiled} (subject : Text) (options : MatchOptions) :
    (∀ search : Compiled → Text → List CaptureRanges,
      (expression.compile (.overMatches compile captureSlots search) world).answer =
          .ok compiled →
        AnswersFirst (.overMatches compile captureSlots search)
          ((search compiled subject).map .ok) expression world subject options) ∧
    ∀ search : Compiled → Text → List (Except EngineError CaptureRanges),
      (expression.compile (.overResults compile captureSlots search) world).answer =
          .ok compiled →
        AnswersFirst (.overResults compile captureSlots search)
          (search compiled subject) expression world subject options ∧
        ∀ other : Compiled → Text → List (Except EngineError CaptureRanges),
          (other compiled subject).head? = (search compiled subject).head? →
          (expression.captures (.overResults compile captureSlots other) subject options
              world).answer =
            (expression.captures (.overResults compile captureSlots search) subject options
              world).answer := by
  refine ⟨?_, ?_⟩
  · intro search ready
    exact answersFirst_of_selectsFrom
      (Engine.overMatches_selectsFrom compile captureSlots search) ready subject options
  · intro search ready
    have selects := Engine.overResults_selectsFrom compile captureSlots search
    refine ⟨answersFirst_of_selectsFrom selects ready subject options, ?_⟩
    intro other same
    have otherSelects := Engine.overResults_selectsFrom compile captureSlots other
    rw [captures_answer selects ready,
      captures_answer otherSelects (show (expression.compile _ world).answer = _ from ready),
      same]

/-- A search that finds one match and then fails, whatever it is asked. -/
def failingSearch (_ : Nat) (_ : Text) : List (Except EngineError CaptureRanges) :=
  [.ok [some ⟨0, 1⟩, some ⟨0, 1⟩], .error .exhausted]

/-- A request for all matches fails, and a request for one match does not see why. -/
theorem captures_answersFirst_before_failure :
    let engine : Engine Unit Nat := .overResults (fun _ _ world => (.ok 2, world)) id failingSearch
    let table : GroupTable := ⟨[⟨0, "(?<x>a)".toList, some ['x'], ⟨0, 7⟩⟩]⟩
    let expression : NamedExpression Nat := ⟨"(?<x>a)".toList, ⟨"(a)".toList, table⟩, {}, none⟩
    (expression.captures engine ['a'] { limit := some 0 } ()).answer =
        .ok ⟨[⟨1, some ['a'], some ['x']⟩]⟩ ∧
      (expression.capturesAll engine ['a'] {} ()).answer = .error (.execution .exhausted) := by
  intro engine table expression
  have ready : (expression.compile engine ()).answer = .ok 2 := rfl
  obtain ⟨answers, -⟩ := (captures_answersFirst ['a'] { limit := some 0 }).2 failingSearch ready
  have mapped := answers.mapped _ _ rfl (by decide)
  exact ⟨mapped.trans rfl, rfl⟩

end NamedExpression

end NamedCapture
