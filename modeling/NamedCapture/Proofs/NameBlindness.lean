import NamedCapture.Proofs.Batches
import NamedCapture.Proofs.Relabeling

/-!
Contract: names never influence what an engine is asked for or what it finds, in two
runs side by side.

Two expressions whose tables differ in names alone, and whose simplified patterns are
the same, ask the same of every engine. The views differ in names alone.

Owns:
- outcomes that agree up to the names in views;
- the agreement of two runs of requests, turn by turn;
- the agreement of a pattern with the same pattern under other names.

Does not own: where names are written in a pattern.
-/

namespace NamedCapture

/-! ## Outcomes -/

/-- The result with its name, if it has one, left blank. -/
def GroupResult.hideName (result : GroupResult) : GroupResult :=
  { result with groupName := result.groupName.map fun _ => [] }

/-- The view with every name left blank. -/
def View.hideNames (view : View) : View :=
  ⟨view.results.map GroupResult.hideName⟩

/-- The same error, or two answers that agree. -/
inductive SameOutcome {Answer : Type} (agree : Answer → Answer → Prop) :
    Except CaptureError Answer → Except CaptureError Answer → Prop where
  | error (error : CaptureError) : SameOutcome agree (.error error) (.error error)
  | ok {first second : Answer} (same : agree first second) :
      SameOutcome agree (.ok first) (.ok second)

theorem SameOutcome.failed_or_answered
    {Answer : Type} {agree : Answer → Answer → Prop} {first second : Except CaptureError Answer}
    (same : SameOutcome agree first second) :
    (∃ error, first = .error error ∧ second = .error error) ∨
      ∃ one other, first = .ok one ∧ second = .ok other ∧ agree one other := by
  cases same with
  | error error => exact .inl ⟨error, rfl, rfl⟩
  | ok same => exact .inr ⟨_, _, rfl, rfl, same⟩

theorem SameOutcome.map
    {Answer Recast : Type} {agree : Answer → Answer → Prop} {agreeRecast : Recast → Recast → Prop}
    {first second : Except CaptureError Answer} (same : SameOutcome agree first second)
    {recast otherRecast : Answer → Recast}
    (respects : ∀ one other, agree one other → agreeRecast (recast one) (otherRecast other)) :
    SameOutcome agreeRecast (first.map recast) (second.map otherRecast) := by
  cases same with
  | error error => exact .error error
  | ok same => exact .ok (respects _ _ same)

/-- Two views that are equal entry by entry except for the names. -/
def SameView (first second : View) : Prop :=
  first.hideNames = second.hideNames

def SameViews (first second : List View) : Prop :=
  first.map View.hideNames = second.map View.hideNames

theorem SameView.size_eq {first second : View} (same : SameView first second) :
    first.size = second.size := by
  have lengths := congrArg (fun view : View => view.results.length) same
  unfold View.hideNames at lengths
  simp only [List.length_map] at lengths
  exact lengths

theorem SameView.cons
    {first second : View} {later others : List View}
    (same : SameView first second) (sameLater : SameViews later others) :
    SameViews (first :: later) (second :: others) := by
  unfold SameViews
  rw [List.map_cons, List.map_cons, same, sameLater]

theorem SameViews.getLast {first second : List View} (same : SameViews first second) :
    SameView (first.getLast?.getD View.empty) (second.getLast?.getD View.empty) := by
  have last := congrArg List.getLast? same
  rw [List.getLast?_map, List.getLast?_map] at last
  cases firstLast : first.getLast? with
  | none =>
      rw [firstLast] at last
      have secondLast := Option.map_eq_none_iff.mp last.symm
      rw [secondLast]
      rfl
  | some view =>
      rw [firstLast] at last
      obtain ⟨other, otherLast, otherEq⟩ := Option.map_eq_some_iff.mp last.symm
      rw [otherLast]
      exact otherEq.symm

/-! ## Matches -/

/-- Two tables with as many entries, of which the same ones are named. -/
def GroupTable.SameShape (first second : GroupTable) : Prop :=
  first.groups.map GroupDefinition.isNamed = second.groups.map GroupDefinition.isNamed

theorem GroupTable.SameShape.size_eq
    {first second : GroupTable} (same : first.SameShape second) : first.size = second.size := by
  have lengths := congrArg List.length same
  rw [List.length_map, List.length_map] at lengths
  exact lengths

theorem mapGroups_sameOutcome
    (subject : Text) (number : Nat) (ranges : List (Option Span))
    {first second : List GroupDefinition}
    (same : first.map GroupDefinition.isNamed = second.map GroupDefinition.isNamed) :
    SameOutcome (fun one other => one.map GroupResult.hideName = other.map GroupResult.hideName)
      (mapGroups subject number ranges first) (mapGroups subject number ranges second) := by
  induction ranges generalizing number first second with
  | nil => cases first <;> cases second <;> exact .ok rfl
  | cons range ranges inductionHypothesis =>
      cases first with
      | nil =>
          have secondEq : second = [] := List.map_eq_nil_iff.mp same.symm
          rw [secondEq]
          exact .ok rfl
      | cons group groups =>
          cases second with
          | nil => cases same
          | cons other others =>
              obtain ⟨isNamed, sameLater⟩ := List.cons.inj same
              have later := inductionHypothesis (number + 1) sameLater
              have blank : group.name.map (fun _ => ([] : Text)) =
                  other.name.map fun _ => [] := by
                unfold GroupDefinition.isNamed at isNamed
                cases groupName : group.name <;> cases otherName : other.name <;>
                  simp_all
              unfold mapGroups
              cases captureText subject number range with
              | error error => exact .error error
              | ok text =>
                  rcases later.failed_or_answered with
                    ⟨error, firstEq, secondEq⟩ | ⟨results, rest, firstEq, secondEq, sameResults⟩
                  · rw [firstEq, secondEq]
                    exact .error error
                  · rw [firstEq, secondEq]
                    apply SameOutcome.ok
                    simp only [List.map_cons, GroupResult.hideName, blank, sameResults]

theorem mapMatch_sameOutcome
    (subject : Text) (ranges : CaptureRanges) {first second : GroupTable}
    (same : first.SameShape second) :
    SameOutcome SameView (mapMatch subject ranges first) (mapMatch subject ranges second) := by
  have mapped := mapGroups_sameOutcome subject 1 (ranges.drop 1) same
  unfold mapMatch
  rw [same.size_eq]
  cases checkAlignment second.size (ranges.length - 1) with
  | error error => exact .error error
  | ok _ =>
      rcases mapped.failed_or_answered with
        ⟨error, firstEq, secondEq⟩ | ⟨results, others, firstEq, secondEq, sameResults⟩
      · rw [firstEq, secondEq]
        exact .error error
      · rw [firstEq, secondEq]
        exact .ok (congrArg View.mk sameResults)

theorem mapMatches_sameOutcome
    (subject : Text) (found : List CaptureRanges) {first second : GroupTable}
    (same : first.SameShape second) :
    SameOutcome SameViews (mapMatches subject first found).1 (mapMatches subject second found).1 ∧
      (mapMatches subject first found).2 = (mapMatches subject second found).2 := by
  induction found with
  | nil => exact ⟨.ok rfl, rfl⟩
  | cons ranges found inductionHypothesis =>
      obtain ⟨later, laterRecords⟩ := inductionHypothesis
      rcases (mapMatch_sameOutcome subject ranges same).failed_or_answered with
        ⟨error, firstEq, secondEq⟩ | ⟨view, other, firstEq, secondEq, sameView⟩
      · obtain ⟨record, reports⟩ := exists_reports_of_mapMatch firstEq
        rw [mapMatches_of_failed found reports firstEq, mapMatches_of_failed found reports secondEq]
        exact ⟨.error error, rfl⟩
      · rw [mapMatches_of_mapped found firstEq, mapMatches_of_mapped found secondEq, laterRecords,
          sameView.size_eq]
        exact ⟨later.map fun _ _ sameLater => sameView.cons sameLater, rfl⟩

/-! ## Turns -/

namespace NamedExpression

variable {World Compiled : Type}

/-- Two expressions that differ in the names of their tables, and in the patterns the
names come from, but not in what is compiled. -/
structure SameButNames (first second : NamedExpression Compiled) : Prop where
  simplified : first.simplified = second.simplified
  table : first.table.SameShape second.table
  options : first.options = second.options
  compiled : first.compiled = second.compiled

/-- Two turns that ask the same of the engine, write the same records, and end in
outcomes and expressions that agree. -/
structure SameTurn
    {Answer : Type} (agree : Answer → Answer → Prop)
    (first second : Turn World Compiled Answer) : Prop where
  expression : first.expression.SameButNames second.expression
  world : first.world = second.world
  calls : first.calls = second.calls
  records : first.records = second.records
  answer : SameOutcome agree first.answer second.answer

theorem SameTurn.mapAnswer
    {Answer Recast : Type} {agree : Answer → Answer → Prop} {agreeRecast : Recast → Recast → Prop}
    {first second : Turn World Compiled Answer} (same : SameTurn agree first second)
    {recast : Answer → Recast}
    (respects : ∀ one other, agree one other → agreeRecast (recast one) (recast other)) :
    SameTurn agreeRecast (first.mapAnswer recast) (second.mapAnswer recast) where
  expression := same.expression
  world := same.world
  calls := same.calls
  records := same.records
  answer := same.answer.map respects

section Turns

variable {first second : NamedExpression Compiled}

theorem compile_sameTurn
    (same : first.SameButNames second) (engine : Engine World Compiled) (world : World) :
    SameTurn Eq (first.compile engine world) (second.compile engine world) := by
  unfold compile
  rw [same.simplified, same.options, same.compiled, same.table.size_eq]
  split
  · exact ⟨same, rfl, rfl, rfl, .ok rfl⟩
  · simp only
    split
    · exact ⟨same, rfl, rfl, rfl, .error _⟩
    · split
      · exact ⟨same, rfl, rfl, rfl, .error _⟩
      · exact ⟨⟨same.simplified, same.table, rfl, rfl⟩, rfl, rfl, rfl, .ok rfl⟩

theorem capturesAll_sameTurn
    (same : first.SameButNames second) (engine : Engine World Compiled)
    (subject : Text) (options : MatchOptions) (world : World) :
    SameTurn SameViews (first.capturesAll engine subject options world)
      (second.capturesAll engine subject options world) := by
  have ready := compile_sameTurn same engine world
  unfold capturesAll
  simp only [ready.world, ready.calls, ready.records]
  rcases ready.answer.failed_or_answered with
    ⟨error, firstEq, secondEq⟩ | ⟨compiled, other, firstEq, secondEq, rfl⟩
  · simp only [firstEq, secondEq]
    exact ⟨ready.expression, rfl, rfl, rfl, .error error⟩
  · simp only [firstEq, secondEq]
    split
    · exact ⟨ready.expression, rfl, rfl, rfl, .error _⟩
    · rename_i found after _
      obtain ⟨views, records⟩ := mapMatches_sameOutcome subject found same.table
      rw [records]
      exact ⟨ready.expression, rfl, rfl, rfl, views⟩

theorem captures_sameTurn
    (same : first.SameButNames second) (engine : Engine World Compiled)
    (subject : Text) (options : MatchOptions) (world : World) :
    SameTurn SameView (first.captures engine subject options world)
      (second.captures engine subject options world) := by
  unfold captures
  apply (capturesAll_sameTurn same engine subject _ world).mapAnswer
  intro views others sameViews
  exact sameViews.getLast

/-- Responses that agree: what an engine is asked for is the same but for the names in
views, and the parts of a description that spell no name are the same. -/
inductive SameResponse : Response Compiled → Response Compiled → Prop where
  | description {source otherSource simplified : Text} {document otherDocument : String}
      {options : CompileOptions} {table otherTable : GroupTable}
      (shape : table.SameShape otherTable) :
      SameResponse (.description source simplified document options table)
        (.description otherSource simplified otherDocument options otherTable)
  | group {group other : Option GroupDefinition}
      (isNamed : group.map GroupDefinition.isNamed = other.map GroupDefinition.isNamed) :
      SameResponse (.group group) (.group other)
  | compiled (compiled : Compiled) : SameResponse (.compiled compiled) (.compiled compiled)
  | view {view other : View} (same : SameView view other) :
      SameResponse (.view view) (.view other)
  | views {views others : List View} (same : SameViews views others) :
      SameResponse (.views views) (.views others)

/-- One step: whatever is asked, names change nothing but names. -/
theorem perform_sameTurn
    (same : first.SameButNames second) (engine : Engine World Compiled) (world : World)
    (request : Request) :
    SameTurn SameResponse (first.perform engine world request)
      (second.perform engine world request) := by
  cases request with
  | describe =>
      unfold perform
      rw [same.simplified, same.options]
      exact ⟨same, rfl, rfl, rfl, .ok (.description same.table)⟩
  | group index =>
      have isNamed := congrArg (·[index]?) same.table
      simp only [List.getElem?_map] at isNamed
      exact ⟨same, rfl, rfl, rfl, .ok (.group isNamed)⟩
  | compile =>
      apply (compile_sameTurn same engine world).mapAnswer
      rintro compiled _ rfl
      exact .compiled compiled
  | captures subject options =>
      apply (captures_sameTurn same engine subject options world).mapAnswer
      intro view other sameView
      exact .view sameView
  | capturesAll subject options =>
      apply (capturesAll_sameTurn same engine subject options world).mapAnswer
      intro views others sameViews
      exact .views sameViews

end Turns

/-- A run: every turn agrees, since every turn leaves expressions and worlds that do. -/
theorem performAll_sameTurns
    {first second : NamedExpression Compiled} (same : first.SameButNames second)
    (engine : Engine World Compiled) (world : World) (requests : List Request) :
    List.Forall₂ (SameTurn SameResponse) (first.performAll engine world requests)
      (second.performAll engine world requests) := by
  induction requests generalizing first second world with
  | nil => exact .nil
  | cons request requests inductionHypothesis =>
      have turn := perform_sameTurn same engine world request
      have later := inductionHypothesis turn.expression (first.perform engine world request).world
      refine .cons turn ?_
      rw [← turn.world]
      exact later

/-! ## Patterns under other names -/

/-- Names never influence matching. When every annotation of an accepted pattern is
replaced by any other one, whose names may be of other lengths, equal or distinct, the
pattern is accepted with the same simplified text and a table of the same shape, in
which each group moves with the annotations up to its ends. Over any engine, any
options and any requests the two patterns then cause the same calls, the same records
and the same worlds turn by turn, and end in the same error, the same compiled form, or
views that are equal but for the names. -/
theorem names_never_influence_matching
    {pattern : Text} {analysis : Analysis} (analyzed : analyze pattern = .ok analysis)
    {labels names : List Text} (written : List.Forall₂ GroupKind.IsLabel labels names)
    (count : names.length = analysis.table.names.length) :
    let other := pattern.relabel (analysis.table.annotations pattern) labels
    ∃ renamed, analyze other = .ok renamed ∧
      renamed.simplified = analysis.simplified ∧
      renamed.table.size = analysis.table.size ∧
      renamed.table.names = names ∧
      (∀ position group entry, analysis.table.get? position = some group →
        renamed.table.get? position = some entry →
        group.RenamedTo (analysis.table.removedBefore position)
          (renamed.table.removedBefore position) entry) ∧
      ∀ (World Compiled : Type) (engine : Engine World Compiled) (options : CompileOptions),
        ∃ first second : NamedExpression Compiled,
          ofPattern Compiled pattern options =
            (.ok first, [.analysed pattern analysis.table.size analysis.simplified]) ∧
          ofPattern Compiled other options =
            (.ok second, [.analysed other analysis.table.size analysis.simplified]) ∧
          ∀ (world : World) (requests : List Request),
            List.Forall₂ (SameTurn SameResponse) (first.performAll engine world requests)
              (second.performAll engine world requests) := by
  intro other
  obtain ⟨renamed, otherAnalyzed, simplifiedEq, namesEq, inOrder⟩ :=
    exists_analyze_relabel analyzed written count
  have sizeEq : renamed.table.size = analysis.table.size := inOrder.length_eq
  refine ⟨renamed, otherAnalyzed, simplifiedEq, sizeEq, namesEq, ?_, ?_⟩
  · intro position group entry groupEq entryEq
    have place := inOrder.getElem? groupEq entryEq
    rw [Nat.zero_add, Nat.zero_add] at place
    exact place
  · intro World Compiled engine options
    refine ⟨⟨pattern, analysis, options, none⟩, ⟨other, renamed, options, none⟩, ?_, ?_, ?_⟩
    · rw [ofPattern, analyzed]
    · rw [ofPattern, otherAnalyzed]
      simp only [sizeEq, simplifiedEq]
    · intro world requests
      apply performAll_sameTurns
      exact ⟨simplifiedEq.symm, inOrder.map_isNamed.symm, rfl, rfl⟩

/-- Two names are made one, one annotation becomes longer and the other shorter. -/
theorem names_never_influence_matching_of_equal_names :
    ∃ first second : NamedExpression LinearPattern,
      (ofPattern LinearPattern "(?<a>x)|(?P<bb>y)(z)".toList {}).1 = .ok first ∧
      (ofPattern LinearPattern "(?P<q>x)|(?<q>y)(z)".toList {}).1 = .ok second ∧
      List.Forall₂ (SameTurn SameResponse)
        (first.performAll linearEngine () [.compile, .captures "yz".toList {}])
        (second.performAll linearEngine () [.compile, .captures "yz".toList {}]) := by
  have letters : ∀ letter ∈ ['q'], GroupKind.isNameLetter letter = true := by
    intro letter member
    rw [List.mem_singleton.mp member]
    rfl
  have long : GroupKind.IsLabel "?P<q>".toList ['q'] :=
    ⟨"?P<".toList, by decide, by decide, by decide, letters⟩
  have short : GroupKind.IsLabel "?<q>".toList ['q'] :=
    ⟨"?<".toList, by decide, by decide, by decide, letters⟩
  obtain ⟨_, -, -, -, -, -, runs⟩ :=
    @names_never_influence_matching "(?<a>x)|(?P<bb>y)(z)".toList _ rfl _ _
      (.cons long (.cons short .nil)) rfl
  obtain ⟨first, second, firstEq, secondEq, same⟩ := runs Unit LinearPattern linearEngine {}
  refine ⟨first, second, ?_, ?_, same () _⟩
  · exact congrArg Prod.fst firstEq
  · exact congrArg Prod.fst secondEq

end NamedExpression

end NamedCapture
