import NamedCapture.Session

/-!
Contract: the life cycle of the compiled form, over every run of requests on an
engine whose calls may have any outcome.

Owns:
- what one turn may do, and what every turn keeps;
- the calls an engine receives, turn by turn;
- the number of compilations of a whole run.

Does not own: the views that a search ends in, or requests made at once.
-/

namespace NamedCapture

variable {World Compiled : Type}

/-! ## Calls and attempts -/

def EngineCall.isCompile : EngineCall Compiled → Bool
  | .compile _ _ => true
  | .execute _ _ _ => false

/-- Whether a request needs a compiled form. -/
def Request.usesEngine : Request → Bool
  | .describe | .group _ => false
  | .compile | .captures _ _ | .capturesAll _ _ => true

namespace Engine

/-- The world after one call. -/
def respond
    (engine : Engine World Compiled)
    (world : World) :
    EngineCall Compiled → World
  | .compile pattern options => (engine.compile pattern options world).2
  | .execute compiled subject options =>
      (engine.execute compiled subject options world).2

/-- The outcomes of the next attempts to compile a pattern, when no other call
comes between them. -/
def attempts
    (engine : Engine World Compiled)
    (pattern : Text)
    (options : CompileOptions) :
    World → Nat → List (Except EngineError Compiled)
  | _, 0 => []
  | world, count + 1 =>
      (engine.compile pattern options world).1 ::
        engine.attempts pattern options (engine.compile pattern options world).2 count

/-- What becomes of an attempt for a table of some size: the compiled form is
kept, or the attempt fails. -/
def verdict
    (engine : Engine World Compiled)
    (size : Nat) :
    Except EngineError Compiled → Except CaptureError Compiled
  | .error error => .error (.compilation error)
  | .ok compiled =>
      if engine.captureSlots compiled - 1 = size then
        .ok compiled
      else
        .error (.alignment size (engine.captureSlots compiled - 1))

theorem verdict_eq_ok_iff
    {engine : Engine World Compiled} {size : Nat} {outcome : Except EngineError Compiled}
    {compiled : Compiled} :
    engine.verdict size outcome = .ok compiled ↔
      outcome = .ok compiled ∧ engine.captureSlots compiled - 1 = size := by
  cases outcome with
  | error error =>
      constructor
      · intro accepted
        cases accepted
      · rintro ⟨impossible, -⟩
        cases impossible
  | ok candidate =>
      rw [verdict]
      split
      · rename_i aligned
        constructor
        · intro accepted
          cases accepted
          exact ⟨rfl, aligned⟩
        · rintro ⟨same, -⟩
          cases same
          rfl
      · rename_i misaligned
        constructor
        · intro accepted
          cases accepted
        · rintro ⟨same, aligned⟩
          cases same
          exact absurd aligned misaligned

theorem verdict_of_misaligned
    {engine : Engine World Compiled} {size : Nat} {compiled : Compiled}
    (misaligned : engine.captureSlots compiled - 1 ≠ size) :
    engine.verdict size (.ok compiled) =
      .error (.alignment size (engine.captureSlots compiled - 1)) := by
  rw [verdict, if_neg misaligned]

end Engine

namespace NamedExpression

variable {engine : Engine World Compiled} {expression : NamedExpression Compiled}
  {world : World}

/-! ## Getting the compiled form ready -/

/-- The attempt to compile that an expression without a compiled form makes. -/
def attempt
    (expression : NamedExpression Compiled)
    (engine : Engine World Compiled)
    (world : World) :
    Except EngineError Compiled × World :=
  engine.compile expression.simplified expression.options world

theorem with_compiled_of_empty (empty : expression.compiled = none) :
    { expression with compiled := none } = expression := by
  rw [← empty]

theorem compile_of_compiled {compiled : Compiled}
    (held : expression.compiled = some compiled) :
    expression.compile engine world = ⟨expression, world, [], [], .ok compiled⟩ := by
  rw [compile, held]

/-- Without a compiled form there is one attempt, and its verdict decides the
answer and what is kept. -/
theorem compile_of_empty
    (engine : Engine World Compiled) (world : World) (empty : expression.compiled = none) :
    (expression.compile engine world).expression =
        { expression with
          compiled :=
            (engine.verdict expression.table.size (expression.attempt engine world).1).toOption } ∧
      (expression.compile engine world).world = (expression.attempt engine world).2 ∧
      (expression.compile engine world).calls =
        [.compile expression.simplified expression.options] ∧
      (expression.compile engine world).answer =
        engine.verdict expression.table.size (expression.attempt engine world).1 := by
  have unchanged := with_compiled_of_empty empty
  rw [compile, empty, attempt]
  simp only
  split
  · rename_i error after attempted
    rw [attempted]
    exact ⟨unchanged.symm, rfl, rfl, rfl⟩
  · rename_i compiled after attempted
    rw [attempted, checkAlignment]
    by_cases aligned : engine.captureSlots compiled - 1 = expression.table.size
    · rw [if_pos aligned.symm, Engine.verdict, if_pos aligned]
      exact ⟨rfl, rfl, rfl, rfl⟩
    · rw [if_neg (Ne.symm aligned), Engine.verdict_of_misaligned aligned]
      exact ⟨unchanged.symm, rfl, rfl, rfl⟩

/-! ## One turn -/

/-- At most one search, and only on one compiled form. -/
def AtMostOneSearch (compiled : Compiled) (calls : List (EngineCall Compiled)) : Prop :=
  calls = [] ∨ ∃ subject options, calls = [.execute compiled subject options]

/-- How a request goes on when the compiled form has been asked for: a failure
is handed on, and success leads to at most one search. -/
structure Continues
    {Answer : Type} (engine : Engine World Compiled)
    (ready : Turn World Compiled Compiled) (turn : Turn World Compiled Answer) : Prop where
  expression : turn.expression = ready.expression
  failed : ∀ error, ready.answer = .error error →
    turn.answer = .error error ∧ turn.calls = ready.calls ∧ turn.world = ready.world
  succeeded : ∀ compiled, ready.answer = .ok compiled →
    ∃ searches, AtMostOneSearch compiled searches ∧ turn.calls = ready.calls ++ searches ∧
      turn.world = searches.foldl engine.respond ready.world

theorem Continues.refl (ready : Turn World Compiled Compiled) : Continues engine ready ready where
  expression := rfl
  failed := fun _ failure => ⟨failure, rfl, rfl⟩
  succeeded := fun _ _ => ⟨[], .inl rfl, (List.append_nil _).symm, rfl⟩

theorem Continues.mapAnswer
    {Answer Recast : Type} {ready : Turn World Compiled Compiled}
    {turn : Turn World Compiled Answer}
    (continues : Continues engine ready turn) (recast : Answer → Recast) :
    Continues engine ready (turn.mapAnswer recast) where
  expression := continues.expression
  failed := by
    intro error failure
    obtain ⟨answer, rest⟩ := continues.failed error failure
    refine ⟨?_, rest⟩
    rw [Turn.mapAnswer, answer]
    rfl
  succeeded := continues.succeeded

theorem Continues.of_failure
    {Answer : Type} {ready : Turn World Compiled Compiled} {turn : Turn World Compiled Answer}
    {error : CaptureError} (failure : ready.answer = .error error)
    (expressionEq : turn.expression = ready.expression) (worldEq : turn.world = ready.world)
    (callsEq : turn.calls = ready.calls) (answerEq : turn.answer = .error error) :
    Continues engine ready turn := by
  refine ⟨expressionEq, ?_, ?_⟩
  · intro other same
    rw [failure] at same
    cases same
    exact ⟨answerEq, callsEq, worldEq⟩
  · intro compiled impossible
    rw [failure] at impossible
    cases impossible

theorem Continues.of_search
    {Answer : Type} {ready : Turn World Compiled Compiled} {turn : Turn World Compiled Answer}
    {compiled : Compiled} {subject : Text} {options : MatchOptions}
    (success : ready.answer = .ok compiled)
    (expressionEq : turn.expression = ready.expression)
    (worldEq : turn.world = (engine.execute compiled subject options ready.world).2)
    (callsEq : turn.calls = ready.calls ++ [.execute compiled subject options]) :
    Continues engine ready turn := by
  refine ⟨expressionEq, ?_, ?_⟩
  · intro error impossible
    rw [success] at impossible
    cases impossible
  · intro other same
    rw [success] at same
    cases same
    exact ⟨[.execute compiled subject options], .inr ⟨subject, options, rfl⟩, callsEq, worldEq⟩

theorem capturesAll_continues
    (expression : NamedExpression Compiled) (engine : Engine World Compiled)
    (subject : Text) (options : MatchOptions) (world : World) :
    Continues engine (expression.compile engine world)
      (expression.capturesAll engine subject options world) := by
  rw [capturesAll]
  cases answerEq : (expression.compile engine world).answer with
  | error error => exact .of_failure answerEq rfl rfl rfl rfl
  | ok compiled =>
      simp only
      split
      · rename_i error after executed
        exact .of_search answerEq rfl (by rw [executed]) rfl
      · rename_i found after executed
        exact .of_search answerEq rfl (by rw [executed]) rfl

theorem perform_continues
    (expression : NamedExpression Compiled) (engine : Engine World Compiled) (world : World)
    {request : Request} (uses : request.usesEngine = true) :
    Continues engine (expression.compile engine world)
      (expression.perform engine world request) := by
  cases request with
  | describe => cases uses
  | group index => cases uses
  | compile => exact (Continues.refl _).mapAnswer _
  | captures subject options =>
      exact ((capturesAll_continues expression engine subject _ world).mapAnswer _).mapAnswer _
  | capturesAll subject options =>
      exact (capturesAll_continues expression engine subject options world).mapAnswer _

/-- Everything that a turn can do. -/
inductive Transition
    (engine : Engine World Compiled) (expression : NamedExpression Compiled) (world : World)
    (request : Request) (turn : Turn World Compiled (Response Compiled)) : Prop where
  /-- The engine is not needed. -/
  | idle
      (unused : request.usesEngine = false)
      (expressionEq : turn.expression = expression)
      (worldEq : turn.world = world)
      (callsEq : turn.calls = [])
  /-- There is a compiled form already. -/
  | reused
      (compiled : Compiled) (searches : List (EngineCall Compiled))
      (used : request.usesEngine = true)
      (held : expression.compiled = some compiled)
      (single : AtMostOneSearch compiled searches)
      (expressionEq : turn.expression = expression)
      (worldEq : turn.world = searches.foldl engine.respond world)
      (callsEq : turn.calls = searches)
  /-- The attempt to compile fails. -/
  | refused
      (error : CaptureError)
      (used : request.usesEngine = true)
      (empty : expression.compiled = none)
      (verdictEq : engine.verdict expression.table.size
        (expression.attempt engine world).1 = .error error)
      (expressionEq : turn.expression = expression)
      (worldEq : turn.world = (expression.attempt engine world).2)
      (callsEq : turn.calls = [.compile expression.simplified expression.options])
      (answerEq : turn.answer = .error error)
  /-- The attempt to compile succeeds. -/
  | accepted
      (compiled : Compiled) (searches : List (EngineCall Compiled))
      (used : request.usesEngine = true)
      (empty : expression.compiled = none)
      (verdictEq : engine.verdict expression.table.size
        (expression.attempt engine world).1 = .ok compiled)
      (single : AtMostOneSearch compiled searches)
      (expressionEq : turn.expression = { expression with compiled := some compiled })
      (worldEq : turn.world =
        searches.foldl engine.respond (expression.attempt engine world).2)
      (callsEq : turn.calls =
        .compile expression.simplified expression.options :: searches)

theorem perform_transition
    (engine : Engine World Compiled) (expression : NamedExpression Compiled) (world : World)
    (request : Request) :
    Transition engine expression world request (expression.perform engine world request) := by
  cases used : request.usesEngine with
  | false =>
      cases request with
      | describe => exact .idle used rfl rfl rfl
      | group index => exact .idle used rfl rfl rfl
      | compile => cases used
      | captures subject options => cases used
      | capturesAll subject options => cases used
  | true =>
      have continues := perform_continues expression engine world used
      cases held : expression.compiled with
      | some compiled =>
          rw [compile_of_compiled held] at continues
          obtain ⟨searches, single, callsEq, worldEq⟩ := continues.succeeded compiled rfl
          exact .reused compiled searches used held single continues.expression worldEq callsEq
      | none =>
          obtain ⟨expressionEq, worldEq, callsEq, answerEq⟩ :=
            compile_of_empty engine world held
          cases verdictEq : engine.verdict expression.table.size
              (expression.attempt engine world).1 with
          | error error =>
              rw [verdictEq] at answerEq expressionEq
              obtain ⟨answer, calls, worldAfter⟩ := continues.failed error answerEq
              refine .refused error used held verdictEq ?_ (worldAfter.trans worldEq)
                (calls.trans callsEq) answer
              exact continues.expression.trans
                (expressionEq.trans (with_compiled_of_empty held))
          | ok compiled =>
              rw [verdictEq] at answerEq expressionEq
              obtain ⟨searches, single, calls, worldAfter⟩ :=
                continues.succeeded compiled answerEq
              rw [worldEq] at worldAfter
              rw [callsEq] at calls
              exact .accepted compiled searches used held verdictEq single
                (continues.expression.trans expressionEq) worldAfter calls

theorem AtMostOneSearch.isCompile_eq_false
    {compiled : Compiled} {searches : List (EngineCall Compiled)} {call : EngineCall Compiled}
    (single : AtMostOneSearch compiled searches) (member : call ∈ searches) :
    call.isCompile = false := by
  rcases single with rfl | ⟨subject, options, rfl⟩
  · cases member
  · rw [List.mem_singleton.mp member]
    rfl

theorem AtMostOneSearch.eq_of_mem
    {compiled other : Compiled} {searches : List (EngineCall Compiled)} {subject : Text}
    {options : MatchOptions}
    (single : AtMostOneSearch compiled searches)
    (member : .execute other subject options ∈ searches) : other = compiled := by
  rcases single with rfl | ⟨_, _, rfl⟩
  · cases member
  · cases List.mem_singleton.mp member
    rfl

theorem AtMostOneSearch.length_le_one
    {compiled : Compiled} {searches : List (EngineCall Compiled)}
    (single : AtMostOneSearch compiled searches) : searches.length ≤ 1 := by
  rcases single with rfl | ⟨_, _, rfl⟩
  · exact Nat.zero_le 1
  · exact Nat.le_refl 1

section Transition

variable {request : Request} {turn : Turn World Compiled (Response Compiled)}

theorem Transition.filled
    (transition : Transition engine expression world request turn) {compiled : Compiled}
    (after : turn.expression.compiled = some compiled) :
    expression.compiled = some compiled ∨
      expression.compiled = none ∧ (expression.attempt engine world).1 = .ok compiled ∧
      engine.captureSlots compiled - 1 = expression.table.size := by
  cases transition with
  | idle _ expressionEq | reused _ _ _ _ _ expressionEq | refused _ _ _ _ expressionEq =>
      rw [expressionEq] at after
      exact .inl after
  | accepted candidate _ _ empty verdictEq _ expressionEq =>
      rw [expressionEq] at after
      cases after
      obtain ⟨attempted, aligned⟩ := Engine.verdict_eq_ok_iff.mp verdictEq
      exact .inr ⟨empty, attempted, aligned⟩

theorem Transition.idled
    (transition : Transition engine expression world request turn)
    (unused : request.usesEngine = false) :
    turn.calls = [] ∧ turn.expression = expression := by
  cases transition with
  | idle _ expressionEq _ callsEq => exact ⟨callsEq, expressionEq⟩
  | refused _ used | reused _ _ used | accepted _ _ used =>
      rw [unused] at used
      cases used

theorem Transition.kept
    (transition : Transition engine expression world request turn) {compiled : Compiled}
    (held : expression.compiled = some compiled) :
    turn.expression = expression ∧ ∀ call ∈ turn.calls, call.isCompile = false := by
  cases transition with
  | idle _ expressionEq _ callsEq =>
      refine ⟨expressionEq, ?_⟩
      rw [callsEq]
      intro call impossible
      cases impossible
  | reused _ searches _ _ single expressionEq _ callsEq =>
      refine ⟨expressionEq, ?_⟩
      rw [callsEq]
      intro call member
      exact single.isCompile_eq_false member
  | refused _ _ empty | accepted _ _ _ empty =>
      rw [held] at empty
      cases empty

theorem Transition.attempted
    (transition : Transition engine expression world request turn)
    (empty : expression.compiled = none) (used : request.usesEngine = true) :
    ∃ searches, turn.calls = .compile expression.simplified expression.options :: searches ∧
      ∀ call ∈ searches, call.isCompile = false := by
  cases transition with
  | idle unused =>
      rw [used] at unused
      cases unused
  | reused _ _ _ held =>
      rw [empty] at held
      cases held
  | refused _ _ _ _ _ _ callsEq =>
      refine ⟨[], callsEq, ?_⟩
      intro call impossible
      cases impossible
  | accepted _ searches _ _ _ single _ _ callsEq =>
      refine ⟨searches, callsEq, ?_⟩
      intro call member
      exact single.isCompile_eq_false member

theorem Transition.countP_isCompile
    (transition : Transition engine expression world request turn)
    (empty : expression.compiled = none) (used : request.usesEngine = true) :
    turn.calls.countP EngineCall.isCompile = 1 := by
  obtain ⟨searches, callsEq, quiet⟩ := transition.attempted empty used
  have none_compile : searches.countP EngineCall.isCompile = 0 := by
    rw [List.countP_eq_zero]
    intro call member
    rw [quiet call member]
    exact Bool.false_ne_true
  rw [callsEq, List.countP_cons_of_pos rfl, none_compile]

theorem Transition.failed
    (transition : Transition engine expression world request turn)
    (empty : expression.compiled = none) (used : request.usesEngine = true)
    {error : CaptureError}
    (verdictEq : engine.verdict expression.table.size
      (expression.attempt engine world).1 = .error error) :
    turn.answer = .error error ∧
      turn.calls = [.compile expression.simplified expression.options] ∧
      turn.expression = expression ∧ turn.world = (expression.attempt engine world).2 := by
  cases transition with
  | idle unused =>
      rw [used] at unused
      cases unused
  | reused _ _ _ held =>
      rw [empty] at held
      cases held
  | refused other _ _ otherEq expressionEq worldEq callsEq answerEq =>
      rw [verdictEq] at otherEq
      cases otherEq
      exact ⟨answerEq, callsEq, expressionEq, worldEq⟩
  | accepted _ _ _ _ acceptedEq =>
      rw [verdictEq] at acceptedEq
      cases acceptedEq

theorem Transition.searched
    (transition : Transition engine expression world request turn)
    {compiled : Compiled} {subject : Text} {selection : MatchOptions}
    (member : .execute compiled subject selection ∈ turn.calls) :
    turn.expression.compiled = some compiled := by
  cases transition with
  | idle _ _ _ callsEq =>
      rw [callsEq] at member
      cases member
  | reused kept searches _ held single expressionEq _ callsEq =>
      rw [callsEq] at member
      rw [expressionEq, held, single.eq_of_mem member]
  | refused _ _ _ _ _ _ callsEq =>
      rw [callsEq] at member
      cases List.mem_singleton.mp member
  | accepted kept searches _ _ _ single expressionEq _ callsEq =>
      rw [callsEq] at member
      rcases List.mem_cons.mp member with impossible | member
      · cases impossible
      · rw [expressionEq, single.eq_of_mem member]

theorem Transition.searchedOnce
    (transition : Transition engine expression world request turn) :
    turn.calls.countP (fun call => !call.isCompile) ≤ 1 := by
  cases transition with
  | idle _ _ _ callsEq =>
      rw [callsEq]
      exact Nat.zero_le 1
  | reused _ searches _ _ single _ _ callsEq =>
      rw [callsEq]
      exact Nat.le_trans List.countP_le_length single.length_le_one
  | refused _ _ _ _ _ _ callsEq =>
      rw [callsEq]
      exact Nat.zero_le 1
  | accepted _ searches _ _ _ single _ _ callsEq =>
      rw [callsEq, List.countP_cons_of_neg (by simp [EngineCall.isCompile])]
      exact Nat.le_trans List.countP_le_length single.length_le_one

theorem Transition.accounted
    (transition : Transition engine expression world request turn) :
    turn.world = turn.calls.foldl engine.respond world := by
  cases transition with
  | reused _ _ _ _ _ _ worldEq callsEq => rw [worldEq, callsEq]
  | idle _ _ worldEq callsEq | refused _ _ _ _ _ worldEq callsEq
  | accepted _ _ _ _ _ _ _ worldEq callsEq =>
      rw [worldEq, callsEq]
      rfl

end Transition

/-! ## What every turn keeps -/

/-- The contract of one turn of an expression over an analysis and compile
switches, in whatever state the turns before it left the expression and the
engine. -/
structure KeepsLifeCycle
    (analysis : Analysis) (options : CompileOptions) (engine : Engine World Compiled)
    (expression : NamedExpression Compiled) (world : World) (request : Request)
    (turn : Turn World Compiled (Response Compiled)) : Prop where
  /-- A compiled form that was not there before is one that the engine compiled
  without error in this turn and whose groups agree with the table. -/
  filled : ∀ compiled, turn.expression.compiled = some compiled →
    expression.compiled = some compiled ∨
      expression.compiled = none ∧
      (engine.compile analysis.simplified options world).1 = .ok compiled ∧
      engine.captureSlots compiled - 1 = analysis.table.size
  /-- A compiled form stays, and nothing is compiled again. -/
  kept : ∀ compiled, expression.compiled = some compiled →
    turn.expression.compiled = some compiled ∧ ∀ call ∈ turn.calls, call.isCompile = false
  /-- Without a compiled form, a request that needs one makes a single attempt, on
  the simplified pattern under the switches. -/
  attempted : expression.compiled = none → request.usesEngine = true →
    turn.calls.filter EngineCall.isCompile = [.compile analysis.simplified options]
  /-- An error of the engine is reported, nothing is searched or kept. -/
  rejected : ∀ error, expression.compiled = none → request.usesEngine = true →
    (engine.compile analysis.simplified options world).1 = .error error →
      turn.answer = .error (.compilation error) ∧
      turn.calls = [.compile analysis.simplified options] ∧
      turn.expression.compiled = none
  /-- Disagreement on the groups is reported, nothing is searched or kept. -/
  misaligned : ∀ compiled, expression.compiled = none → request.usesEngine = true →
    (engine.compile analysis.simplified options world).1 = .ok compiled →
    engine.captureSlots compiled - 1 ≠ analysis.table.size →
      turn.answer =
        .error (.alignment analysis.table.size (engine.captureSlots compiled - 1)) ∧
      turn.calls = [.compile analysis.simplified options] ∧
      turn.expression.compiled = none
  /-- Only the compiled form that is kept is searched with. -/
  searched : ∀ compiled subject selection, .execute compiled subject selection ∈ turn.calls →
    turn.expression.compiled = some compiled
  /-- There is at most one search. -/
  searchedOnce : turn.calls.countP (fun call => !call.isCompile) ≤ 1
  /-- A request that needs no engine makes no call. -/
  idle : request.usesEngine = false → turn.calls = [] ∧ turn.expression = expression
  /-- The listed calls are all that the engine received. -/
  accounted : turn.world = turn.calls.foldl engine.respond world

/-- Everything but the compiled form stays as it was taken in. -/
theorem Transition.compiled_only
    {request : Request} {turn : Turn World Compiled (Response Compiled)}
    (transition : Transition engine expression world request turn) :
    turn.expression = { expression with compiled := turn.expression.compiled } := by
  cases transition with
  | idle _ expressionEq | reused _ _ _ _ _ expressionEq | refused _ _ _ _ expressionEq =>
      rw [expressionEq]
  | accepted _ _ _ _ _ _ expressionEq =>
      rw [expressionEq]

theorem Transition.keepsLifeCycle
    {request : Request} {turn : Turn World Compiled (Response Compiled)}
    (transition : Transition engine expression world request turn) :
    KeepsLifeCycle expression.analysis expression.options engine expression world request
      turn where
  filled _ after := transition.filled after
  kept compiled held := by
    obtain ⟨expressionEq, calls⟩ := transition.kept held
    exact ⟨by rw [expressionEq, held], calls⟩
  attempted empty used := by
    obtain ⟨searches, callsEq, quiet⟩ := transition.attempted empty used
    have none_compile : searches.filter EngineCall.isCompile = [] := by
      rw [List.filter_eq_nil_iff]
      intro call member
      rw [quiet call member]
      exact Bool.false_ne_true
    rw [callsEq, List.filter_cons_of_pos rfl, none_compile]
    rfl
  rejected error empty used attempted := by
    have verdictEq : engine.verdict expression.table.size
        (expression.attempt engine world).1 = .error (.compilation error) := by
      rw [attempt, simplified, attempted]
      rfl
    obtain ⟨answerEq, callsEq, expressionEq, -⟩ := transition.failed empty used verdictEq
    exact ⟨answerEq, callsEq, by rw [expressionEq, empty]⟩
  misaligned compiled empty used attempted differs := by
    have verdictEq : engine.verdict expression.table.size
        (expression.attempt engine world).1 =
          .error (.alignment expression.table.size (engine.captureSlots compiled - 1)) := by
      rw [attempt, simplified, attempted]
      exact Engine.verdict_of_misaligned differs
    obtain ⟨answerEq, callsEq, expressionEq, -⟩ := transition.failed empty used verdictEq
    exact ⟨answerEq, callsEq, by rw [expressionEq, empty]⟩
  searched _ _ _ member := transition.searched member
  searchedOnce := transition.searchedOnce
  idle unused := transition.idled unused
  accounted := transition.accounted

/-! ## Runs of turns -/

/-- The expression and the world that a run of requests leaves behind. -/
def after
    (expression : NamedExpression Compiled)
    (engine : Engine World Compiled)
    (world : World) :
    List Request → NamedExpression Compiled × World
  | [] => (expression, world)
  | request :: remaining =>
      let turn := expression.perform engine world request
      turn.expression.after engine turn.world remaining

theorem after_append
    (expression : NamedExpression Compiled) (engine : Engine World Compiled) (world : World)
    (finished remaining : List Request) :
    expression.after engine world (finished ++ remaining) =
      (expression.after engine world finished).1.after engine
        (expression.after engine world finished).2 remaining := by
  induction finished generalizing expression world with
  | nil => rfl
  | cons request finished inductionHypothesis =>
      exact inductionHypothesis _ _

theorem performAll_append
    (expression : NamedExpression Compiled) (engine : Engine World Compiled) (world : World)
    (finished remaining : List Request) :
    expression.performAll engine world (finished ++ remaining) =
      expression.performAll engine world finished ++
        (expression.after engine world finished).1.performAll engine
          (expression.after engine world finished).2 remaining := by
  induction finished generalizing expression world with
  | nil => rfl
  | cons request finished inductionHypothesis =>
      rw [List.cons_append, performAll, performAll, List.cons_append, inductionHypothesis]
      rfl

/-- A run is cut before one of its requests. -/
theorem performAll_append_cons
    (expression : NamedExpression Compiled) (engine : Engine World Compiled) (world : World)
    (finished : List Request) (request : Request) (remaining : List Request) :
    expression.performAll engine world (finished ++ request :: remaining) =
      expression.performAll engine world finished ++
        (expression.after engine world finished).1.perform engine
            (expression.after engine world finished).2 request ::
          (expression.after engine world (finished ++ [request])).1.performAll engine
            (expression.after engine world (finished ++ [request])).2 remaining := by
  rw [performAll_append, after_append]
  rfl

/-- What an expression reached by a run has in common with the one that was taken
in, and where its compiled form comes from. -/
structure DescendsFrom
    (analysis : Analysis) (options : CompileOptions) (engine : Engine World Compiled)
    (reached : NamedExpression Compiled) : Prop where
  analysisEq : reached.analysis = analysis
  optionsEq : reached.options = options
  sound : ∀ compiled, reached.compiled = some compiled →
    (∃ earlier, (engine.compile analysis.simplified options earlier).1 = .ok compiled) ∧
      engine.captureSlots compiled - 1 = analysis.table.size

theorem DescendsFrom.of_empty (empty : expression.compiled = none) :
    DescendsFrom expression.analysis expression.options engine expression := by
  refine ⟨rfl, rfl, ?_⟩
  intro compiled impossible
  rw [empty] at impossible
  cases impossible

theorem Transition.descends
    {analysis : Analysis} {options : CompileOptions} {request : Request}
    {turn : Turn World Compiled (Response Compiled)}
    (transition : Transition engine expression world request turn)
    (descends : DescendsFrom analysis options engine expression) :
    DescendsFrom analysis options engine turn.expression := by
  have compiledOnly := transition.compiled_only
  refine ⟨?_, ?_, ?_⟩
  · rw [compiledOnly]
    exact descends.analysisEq
  · rw [compiledOnly]
    exact descends.optionsEq
  · intro compiled held
    rcases transition.filled held with before | ⟨-, attempted, aligned⟩
    · exact descends.sound compiled before
    · rw [attempt, simplified, descends.analysisEq, descends.optionsEq] at attempted
      rw [table, descends.analysisEq] at aligned
      exact ⟨⟨world, attempted⟩, aligned⟩

theorem DescendsFrom.after
    {analysis : Analysis} {options : CompileOptions}
    (descends : DescendsFrom analysis options engine expression) (world : World)
    (requests : List Request) :
    DescendsFrom analysis options engine (expression.after engine world requests).1 := by
  induction requests generalizing expression world with
  | nil => exact descends
  | cons request requests inductionHypothesis =>
      have transition := perform_transition engine expression world request
      exact inductionHypothesis (transition.descends descends) _

/-- Once there is a compiled form, a run never changes it and never compiles. -/
theorem after_of_compiled {compiled : Compiled}
    (held : expression.compiled = some compiled) (world : World) (requests : List Request) :
    (expression.after engine world requests).1 = expression ∧
      ∀ turn ∈ expression.performAll engine world requests, ∀ call ∈ turn.calls,
        call.isCompile = false := by
  induction requests generalizing world with
  | nil =>
      refine ⟨rfl, ?_⟩
      intro turn impossible
      cases impossible
  | cons request requests inductionHypothesis =>
      have transition := perform_transition engine expression world request
      obtain ⟨expressionEq, quiet⟩ := transition.kept held
      rw [NamedExpression.after, performAll]
      simp only [expressionEq]
      obtain ⟨laterEq, laterQuiet⟩ :=
        inductionHypothesis (expression.perform engine world request).world
      refine ⟨laterEq, ?_⟩
      intro turn member
      rcases List.mem_cons.mp member with rfl | member
      · exact quiet
      · exact laterQuiet turn member

/-! ## The compilations of a run -/

/-- How often the engine was asked to compile in some turns. -/
def compilations {Answer : Type} (turns : List (Turn World Compiled Answer)) : Nat :=
  (turns.flatMap Turn.calls).countP EngineCall.isCompile

theorem compilations_cons
    {Answer : Type} (turn : Turn World Compiled Answer)
    (turns : List (Turn World Compiled Answer)) :
    compilations (turn :: turns) =
      turn.calls.countP EngineCall.isCompile + compilations turns := by
  rw [compilations, List.flatMap_cons, List.countP_append]
  rfl

theorem compilations_of_compiled {compiled : Compiled}
    (held : expression.compiled = some compiled) (world : World) (requests : List Request) :
    compilations (expression.performAll engine world requests) = 0 := by
  rw [compilations, List.countP_eq_zero]
  intro call member
  obtain ⟨turn, turnMember, callMember⟩ := List.mem_flatMap.mp member
  rw [(after_of_compiled held world requests).2 turn turnMember call callMember]
  exact Bool.false_ne_true

/-- Attempts go on as long as requests need the engine, up to the first that
succeeds. -/
theorem compilations_of_empty
    (engine : Engine World Compiled) (empty : expression.compiled = none) (world : World)
    (requests : List Request) :
    compilations (expression.performAll engine world requests) =
      min (requests.countP Request.usesEngine)
        (1 + (engine.attempts expression.simplified expression.options world
          (requests.countP Request.usesEngine)).findIdx
            fun outcome => (engine.verdict expression.table.size outcome).isOk) := by
  induction requests generalizing world with
  | nil => rfl
  | cons request requests inductionHypothesis =>
      have transition := perform_transition engine expression world request
      have once := transition.countP_isCompile empty
      rw [performAll, compilations_cons]
      cases transition with
      | idle unused expressionEq worldEq callsEq =>
          rw [callsEq, expressionEq, worldEq, inductionHypothesis,
            List.countP_cons_of_neg (by rw [unused]; exact Bool.false_ne_true)]
          exact Nat.zero_add _
      | reused compiled _ _ held =>
          rw [empty] at held
          cases held
      | refused error used _ verdictEq expressionEq worldEq callsEq =>
          have lost : (engine.verdict expression.table.size
              (expression.attempt engine world).1).isOk = false := by
            rw [verdictEq]
            rfl
          rw [attempt] at lost
          rw [once used, expressionEq, worldEq, inductionHypothesis,
            List.countP_cons_of_pos used, Engine.attempts, List.findIdx_cons, lost, cond_false,
            attempt]
          omega
      | accepted compiled searches used _ verdictEq single expressionEq worldEq callsEq =>
          have won : (engine.verdict expression.table.size
              (expression.attempt engine world).1).isOk = true := by
            rw [verdictEq]
            rfl
          rw [attempt] at won
          have held : (expression.perform engine world request).expression.compiled =
              some compiled := by
            rw [expressionEq]
          rw [once used, compilations_of_compiled held, List.countP_cons_of_pos used,
            Engine.attempts, List.findIdx_cons, won, cond_true]
          omega

/-! ## The life cycle -/

/-- The contract of every run from an expression. -/
structure FollowsLifeCycle
    (analysis : Analysis) (options : CompileOptions) (engine : Engine World Compiled)
    (expression : NamedExpression Compiled) (world : World) : Prop where
  /-- Every turn of a run keeps the contract of one turn. -/
  turns : ∀ finished request remaining,
    expression.performAll engine world (finished ++ request :: remaining) =
      expression.performAll engine world finished ++
        (expression.after engine world finished).1.perform engine
            (expression.after engine world finished).2 request ::
          (expression.after engine world (finished ++ [request])).1.performAll engine
            (expression.after engine world (finished ++ [request])).2 remaining ∧
    KeepsLifeCycle analysis options engine (expression.after engine world finished).1
      (expression.after engine world finished).2 request
      ((expression.after engine world finished).1.perform engine
        (expression.after engine world finished).2 request)
  /-- A compiled form held at any time came from the engine without error and
  agrees with the table. -/
  sound : ∀ finished compiled,
    (expression.after engine world finished).1.compiled = some compiled →
      (∃ earlier, (engine.compile analysis.simplified options earlier).1 = .ok compiled) ∧
      engine.captureSlots compiled - 1 = analysis.table.size
  /-- It is held forever after, and nothing is compiled any more. -/
  lasting : ∀ finished remaining compiled,
    (expression.after engine world finished).1.compiled = some compiled →
      (expression.after engine world (finished ++ remaining)).1.compiled = some compiled ∧
      compilations ((expression.after engine world finished).1.performAll engine
        (expression.after engine world finished).2 remaining) = 0
  /-- The engine compiles once for every request that needs it, up to the first
  attempt that succeeds and agrees with the table. -/
  counted : ∀ requests,
    compilations (expression.performAll engine world requests) =
      min (requests.countP Request.usesEngine)
        (1 + (engine.attempts analysis.simplified options world
          (requests.countP Request.usesEngine)).findIdx
            fun outcome => (engine.verdict analysis.table.size outcome).isOk)

theorem DescendsFrom.followsLifeCycle
    {analysis : Analysis} {options : CompileOptions}
    (origin : DescendsFrom analysis options engine expression)
    (empty : expression.compiled = none) (world : World) :
    FollowsLifeCycle analysis options engine expression world where
  turns finished request remaining := by
    have reached := origin.after world finished
    have keeps := (perform_transition engine (expression.after engine world finished).1
      (expression.after engine world finished).2 request).keepsLifeCycle
    rw [reached.analysisEq, reached.optionsEq] at keeps
    exact ⟨performAll_append_cons .., keeps⟩
  sound finished compiled held := (origin.after world finished).sound compiled held
  lasting finished remaining compiled held := by
    refine ⟨?_, compilations_of_compiled held _ remaining⟩
    rw [after_append, (after_of_compiled held _ remaining).1, held]
  counted requests := by
    have counts := compilations_of_empty engine empty world requests
    rw [simplified, table, origin.analysisEq, origin.optionsEq] at counts
    exact counts

/-- An expression taken in from a pattern that can be analysed follows the life
cycle on every engine and under every sequence of requests. -/
theorem ofPattern_followsLifeCycle
    {pattern : Text} {analysis : Analysis} (analysed : analyze pattern = .ok analysis)
    (options : CompileOptions) (engine : Engine World Compiled) (world : World) :
    ∃ expression records,
      ofPattern Compiled pattern options = (.ok expression, records) ∧
      expression.compiled = none ∧
      FollowsLifeCycle analysis options engine expression world := by
  refine ⟨⟨pattern, analysis, options, none⟩,
    [.analysed pattern analysis.table.size analysis.simplified], ?_, rfl, ?_⟩
  · rw [ofPattern, analysed]
  · have origin : DescendsFrom analysis options engine ⟨pattern, analysis, options, none⟩ := by
      refine ⟨rfl, rfl, ?_⟩
      intro compiled impossible
      cases impossible
    exact origin.followsLifeCycle rfl world

/-- An engine that takes the outcomes of its compilations from a script, each a
number of capture slots, and finds nothing. -/
def scriptedEngine : Engine (List (Except EngineError Nat)) Nat where
  compile _ _ script :=
    match script with
    | [] => (.error .exhausted, [])
    | outcome :: remaining => (outcome, remaining)
  captureSlots slots := slots
  execute _ _ _ script := (.ok [], script)

/-- An error and a wrong number of groups cost one compilation each; the third is
the last one. -/
theorem ofPattern_followsLifeCycle_scripted :
    ∃ expression records,
      ofPattern Nat ['(', 'a', ')'] {} = (.ok expression, records) ∧
      compilations (expression.performAll scriptedEngine
        [.error (.oversized 9), .ok 5, .ok 2, .ok 2]
        [.describe, .compile, .captures ['a'] {}, .group 0, .capturesAll ['a'] {}, .compile,
          .captures ['a'] {}]) = 3 := by
  obtain ⟨expression, records, taken, -, follows⟩ :=
    @ofPattern_followsLifeCycle _ _ ['(', 'a', ')'] _ rfl {} scriptedEngine
      [.error (.oversized 9), .ok 5, .ok 2, .ok 2]
  exact ⟨expression, records, taken, (follows.counted _).trans (by decide)⟩

end NamedExpression

end NamedCapture
