import NamedCapture.Engine
import NamedCapture.Pattern.Analysis

/-!
Contract: a pattern with named groups over an engine that only numbers them.

The pattern is analysed when it is taken in. It is compiled when an engine is
first needed; a compiled form is kept only if its groups agree with the table,
and is never replaced. Until then every use compiles again.

Owns: the life cycle of the compiled form, the calls made to the engine, and
the records of each turn.

Does not own: the analysis, the mapping of matches, or the engine.
-/

namespace NamedCapture

/-- An analysed pattern, its compile switches, and the compiled form once there
is one. -/
structure NamedExpression (Compiled : Type) where
  source : Text
  analysis : Analysis
  options : CompileOptions
  compiled : Option Compiled
deriving Repr

/-- What one request brought about: the expression and the engine's world after
it, the calls made to the engine and the records written, and the answer. -/
structure Turn (World Compiled Answer : Type) where
  expression : NamedExpression Compiled
  world : World
  calls : List (EngineCall Compiled)
  records : List Record
  answer : Except CaptureError Answer

namespace Turn

def mapAnswer
    {World Compiled Answer Recast : Type}
    (turn : Turn World Compiled Answer)
    (recast : Answer → Recast) :
    Turn World Compiled Recast :=
  { expression := turn.expression
    world := turn.world
    calls := turn.calls
    records := turn.records
    answer := turn.answer.map recast }

end Turn

namespace NamedExpression

/-- Take in a pattern. A record is written only when the analysis succeeds. -/
def ofPattern
    (Compiled : Type)
    (pattern : Text)
    (options : CompileOptions) :
    Except CaptureError (NamedExpression Compiled) × List Record :=
  match analyze pattern with
  | .error error => (.error (.pattern error), [])
  | .ok analysis =>
      (.ok ⟨pattern, analysis, options, none⟩,
        [.analysed pattern analysis.table.size analysis.simplified])

def simplified {Compiled : Type} (expression : NamedExpression Compiled) : Text :=
  expression.analysis.simplified

def table
    {Compiled : Type}
    (expression : NamedExpression Compiled) :
    GroupTable :=
  expression.analysis.table

/-- The kept compiled form, or a fresh one that is kept when its groups agree
with the table. -/
def compile
    {World Compiled : Type}
    (expression : NamedExpression Compiled)
    (engine : Engine World Compiled)
    (world : World) :
    Turn World Compiled Compiled :=
  match expression.compiled with
  | some compiled => ⟨expression, world, [], [], .ok compiled⟩
  | none =>
      let calls := [.compile expression.simplified expression.options]
      match engine.compile expression.simplified expression.options world with
      | (.error error, after) =>
          ⟨expression, after, calls, [], .error (.compilation error)⟩
      | (.ok compiled, after) =>
          match checkAlignment expression.table.size
              (engine.captureSlots compiled - 1) with
          | .error error =>
              ⟨expression, after, calls, (Record.ofError? error).toList,
                .error error⟩
          | .ok () =>
              ⟨{ expression with compiled := some compiled }, after, calls,
                [.compiled expression.simplified], .ok compiled⟩

/-- The views of the selected matches in a subject. -/
def capturesAll
    {World Compiled : Type}
    (expression : NamedExpression Compiled)
    (engine : Engine World Compiled)
    (subject : Text)
    (options : MatchOptions)
    (world : World) :
    Turn World Compiled (List View) :=
  let ready := expression.compile engine world
  match ready.answer with
  | .error error =>
      ⟨ready.expression, ready.world, ready.calls, ready.records, .error error⟩
  | .ok compiled =>
      let calls := ready.calls ++ [.execute compiled subject options]
      match engine.execute compiled subject options ready.world with
      | (.error error, after) =>
          ⟨ready.expression, after, calls, ready.records,
            .error (.execution error)⟩
      | (.ok found, after) =>
          let (views, records) := mapMatches subject expression.table found
          ⟨ready.expression, after, calls, ready.records ++ records, views⟩

/-- The view of one match in a subject: the last of what the engine finds under
a limit of one, or the empty view. -/
def captures
    {World Compiled : Type}
    (expression : NamedExpression Compiled)
    (engine : Engine World Compiled)
    (subject : Text)
    (options : MatchOptions)
    (world : World) :
    Turn World Compiled View :=
  (expression.capturesAll engine subject { options with limit := some 1 }
    world).mapAnswer fun views => views.getLast?.getD View.empty

end NamedExpression

/-! ## Runs of requests -/

/-- What may be asked of a named expression. -/
inductive Request where
  | describe
  | group (index : Nat)
  | compile
  | captures (subject : Text) (options : MatchOptions)
  | capturesAll (subject : Text) (options : MatchOptions)
deriving DecidableEq, Repr

/-- The answer to a request that succeeds. -/
inductive Response (Compiled : Type) where
  | description
      (source simplified : Text)
      (document : String)
      (options : CompileOptions)
      (table : GroupTable)
  | group (group : Option GroupDefinition)
  | compiled (compiled : Compiled)
  | view (view : View)
  | views (views : List View)
deriving Repr

namespace NamedExpression

/-- Answer one request. A description or a group is answered from the analysis
alone. -/
def perform
    {World Compiled : Type}
    (expression : NamedExpression Compiled)
    (engine : Engine World Compiled)
    (world : World) :
    Request → Turn World Compiled (Response Compiled)
  | .describe =>
      ⟨expression, world, [], [],
        .ok (.description expression.source expression.simplified
          expression.analysis.document expression.options expression.table)⟩
  | .group index =>
      ⟨expression, world, [], [], .ok (.group (expression.table.get? index))⟩
  | .compile => (expression.compile engine world).mapAnswer .compiled
  | .captures subject options =>
      (expression.captures engine subject options world).mapAnswer .view
  | .capturesAll subject options =>
      (expression.capturesAll engine subject options world).mapAnswer .views

/-- Answer requests in order, each on the expression and the world that the one
before left behind. -/
def performAll
    {World Compiled : Type}
    (expression : NamedExpression Compiled)
    (engine : Engine World Compiled)
    (world : World) :
    List Request → List (Turn World Compiled (Response Compiled))
  | [] => []
  | request :: remaining =>
      let turn := expression.perform engine world request
      turn :: turn.expression.performAll engine turn.world remaining

end NamedExpression

end NamedCapture
