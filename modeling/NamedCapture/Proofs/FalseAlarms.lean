import Mathlib.Data.Bool.AllAny
import NamedCapture.Proofs.Dialects
import NamedCapture.Proofs.LifeCycle
import NamedCapture.Proofs.Verdict

/-!
Contract: a pattern that an engine accepts as it stands raises no alarm, as long as the
engine keeps to the documentation of its dialect and the pattern has no comments.

An alarm is an error about the groups of a pattern: a parenthesis without a partner, a
capture inside a group, or a table and an engine that count differently.

Owns:
- the numbered groups inside others;
- the table of an accepted pattern, and the answer when it is compiled.

Does not own: what an engine makes of the pattern without names.
-/

namespace NamedCapture

/-! ## Numbered groups inside others -/

/-- A group that an engine numbers is inside another group. -/
def Text.NestsNumbered (pattern : Text) : Prop :=
  ∃ inner ∈ pattern.numberedOpenings, ∃ opening closing,
    pattern.Encloses opening closing ∧ opening < inner ∧ inner < closing

theorem Text.isInnerCapture_iff
    {pattern : Text} (keeps : pattern.keepsBlanks = true) {inner : Nat} :
    pattern.IsInnerCapture inner ↔
      inner ∈ pattern.numberedOpenings ∧ ∃ opening closing,
        pattern.Encloses opening closing ∧ opening < inner ∧ inner < closing := by
  rw [numberedOpenings_eq_captures keeps, mem_captures_iff]
  rfl

theorem Derives.isFlat_iff
    {pattern : Text} {outline : Outline} (derived : Derives pattern outline [])
    (keeps : pattern.keepsBlanks = true) :
    outline.isFlat = true ↔ ¬ pattern.NestsNumbered := by
  rw [← outline.innerCaptures_eq_nil_iff 0, List.eq_nil_iff_forall_not_mem]
  constructor
  · rintro none ⟨inner, numbered, around⟩
    apply none inner
    apply derived.mem_innerCaptures_iff.mpr
    exact (Text.isInnerCapture_iff keeps).mpr ⟨numbered, around⟩
  · intro none inner member
    have isInner := derived.mem_innerCaptures_iff.mp member
    exact none ⟨inner, (Text.isInnerCapture_iff keeps).mp isInner⟩

theorem Text.not_nestsNumbered_of_analyze
    {pattern : Text} {analysis : Analysis} (analyzed : analyze pattern = .ok analysis)
    (keeps : pattern.keepsBlanks = true) : ¬ pattern.NestsNumbered := by
  obtain ⟨outline, derived, flat, -⟩ := analyze_eq_ok_iff.mp analyzed
  exact (derived.isFlat_iff keeps).mp flat

/-! ## No alarm -/

/-- A comment, a conditional or a backreference by name is taken for a capture,
whatever follows its mark. -/
theorem GroupKind.isCapturing_of_isForeign
    {body : Text} (foreign : body.isForeign = true) : (ofBody body).isCapturing = true := by
  rw [Text.isCapturing_ofBody]
  unfold Text.isForeign at foreign
  rw [List.any_eq_true] at foreign
  obtain ⟨mark, known, starts⟩ := foreign
  obtain ⟨rest, rfl⟩ := List.isPrefixOf_iff_prefix.mp starts
  simp only [Text.foreignMarks, List.mem_cons, List.not_mem_nil, or_false] at known
  rcases known with rfl | rfl | rfl
  all_goals simp [Text.takesNumber, Text.unnumberedOpenings, Text.flagList?, List.isPrefixOf,
    GroupKind.isFlagLetter]

/-- The analysis of a regular outline without captures inside other groups: the table,
the pattern, and the pattern without names have as many groups with a number. -/
theorem Derives.counts_of_regular
    {pattern : Text} {outline : Outline} (derived : Derives pattern outline [])
    (regular : outline.IsRegular) (flat : outline.isFlat = true) :
    outline.analysis.table.size = outline.captureCount ∧
      pattern.numberedOpenings.length = outline.captureCount ∧
      outline.analysis.simplified.numberedOpenings.length = outline.captureCount := by
  have without := derived.simplified
  rw [List.append_nil] at without
  refine ⟨?_, derived.length_numberedOpenings regular, ?_⟩
  · have starts := congrArg List.length (Outline.map_start_definitions flat 0 0)
    rw [List.length_map, outline.length_captures] at starts
    exact starts
  · rw [derived.analysis_simplified, without.length_numberedOpenings regular.simplified,
      Outline.captureCount_simplified regular]

/-- Without its names a pattern with a regular outline hides no blanks and has no
comments either. -/
theorem Derives.eachBody_simplified
    {pattern : Text} {outline : Outline} (derived : Derives pattern outline [])
    (regular : outline.IsRegular) :
    outline.analysis.simplified.EachBody GroupCursor.IsFamiliar := by
  have without := derived.simplified
  rw [List.append_nil, ← derived.analysis_simplified] at without
  have each := without.eachBody_opensRegularly regular.simplified (Text.eachBody_nil _)
  exact fun offset body opens =>
    ⟨(each offset body opens).leavesBlanks, (each offset body opens).noComment⟩

theorem exists_eq_ok_of_isOk
    {Error Value : Type} {result : Except Error Value} (isOk : result.isOk = true) :
    ∃ value, result = .ok value := by
  cases result with
  | error => cases isOk
  | ok value => exact ⟨value, rfl⟩

namespace NamedExpression

variable {World Compiled : Type}

/-- When the counts agree the answer is that of the engine. -/
theorem compile_answer_of_counts
    {engine : Engine World Compiled} {expression : NamedExpression Compiled} {world : World}
    (empty : expression.compiled = none)
    (counts : ∀ compiled,
      (engine.compile expression.simplified expression.options world).1 = .ok compiled →
        engine.captureSlots compiled - 1 = expression.table.size) :
    (expression.compile engine world).answer =
      (engine.compile expression.simplified expression.options world).1.mapError
        .compilation := by
  obtain ⟨-, -, -, answered⟩ := compile_of_empty engine world empty
  rw [answered, attempt]
  cases outcome : (engine.compile expression.simplified expression.options world).1 with
  | error error => rfl
  | ok compiled => exact Engine.verdict_eq_ok_iff.mpr ⟨rfl, counts compiled outcome⟩

/-- An engine keeps to its dialect for the patterns of some class, and accepts one of
them as it stands; no group of it hides blanks, none is a comment, and no numbered group
is inside another group. Then the pattern is taken in, the table lists as many groups as
the engine numbers, and so many are numbered with the names and without. If the pattern
without names is of the class too, the engine decides alone about the answer to a request
to compile. -/
theorem compile_answer_of_accepted
    {engine : Engine World Compiled} {comments : Bool} {plain : CompileOptions → Text → Prop}
    {options : CompileOptions} {pattern : Text} {world : World} {compiled : Compiled}
    (follows : engine.FollowsDialect comments plain) (known : plain options pattern)
    (accepted : (engine.compile pattern options world).1 = .ok compiled)
    (keeps : pattern.keepsBlanks = true)
    (uncommented : pattern.EachBody fun body => body.startsComment = false)
    (outermost : ¬ pattern.NestsNumbered) :
    ∃ (expression : NamedExpression Compiled) (records : List Record),
      analyze pattern = .ok expression.analysis ∧
      ofPattern Compiled pattern options = (.ok expression, records) ∧
      engine.captureSlots compiled = expression.table.size + 1 ∧
      pattern.numberedOpenings.length = expression.table.size ∧
      expression.simplified.numberedOpenings.length = expression.table.size ∧
      (plain options expression.simplified → ∀ later,
        (expression.compile engine later).answer =
          (engine.compile expression.simplified options later).1.mapError .compilation) := by
  have familiar : pattern.EachBody GroupCursor.IsFamiliar := fun offset body opens =>
    ⟨Text.keepsBlanks_iff.mp keeps offset body opens, uncommented offset body opens⟩
  obtain ⟨outline, derived, regular, slots⟩ := follows.exists_derives known accepted familiar
  have flat : outline.isFlat = true :=
    (derived.isFlat_iff (derived.keepsBlanks regular)).mpr outermost
  have analyzed : analyze pattern = .ok outline.analysis :=
    derived.analyze_eq_ok_iff.mpr ⟨flat, rfl⟩
  obtain ⟨size, numbered, numberedWithout⟩ := derived.counts_of_regular regular flat
  refine ⟨⟨pattern, outline.analysis, options, none⟩,
    [.analysed pattern outline.analysis.table.size outline.analysis.simplified], analyzed, ?_,
    slots.trans (congrArg (· + 1) size.symm), numbered.trans size.symm,
    numberedWithout.trans size.symm, ?_⟩
  · rw [ofPattern, analyzed]
  · intro knownWithout later
    have familiarWithout := derived.eachBody_simplified regular
    apply compile_answer_of_counts rfl
    intro compiledLater outcome
    obtain ⟨without, derivedWithout, regularWithout, slotsWithout⟩ :=
      follows.exists_derives knownWithout outcome familiarWithout
    rw [slotsWithout, Nat.add_sub_cancel, ← derivedWithout.length_numberedOpenings regularWithout]
    exact numberedWithout.trans size.symm

/-- An escaped parenthesis, one in a class, a lookbehind and an atomic group raise no
alarm in the dialect that has them; flags and a class raise none in the other one. -/
theorem compile_answer_of_accepted_both :
    (∃ expression records,
      ofPattern LookaroundPattern "(?<=\\()(?<a>x)(?>b)[)](c)".toList {} =
        (.ok expression, records) ∧
      expression.table.size = 2 ∧
      (expression.compile lookaroundEngine ()).answer.isOk = true) ∧
    (∃ expression records,
      ofPattern LinearPattern "(?s:a)(?P<b>[(])(?U)(c)".toList {} = (.ok expression, records) ∧
      expression.table.size = 2 ∧
      (expression.compile linearEngine ()).answer.isOk = true) := by
  constructor
  · have known : LookaroundPattern.ReadsPlainly {} "(?<=\\()(?<a>x)(?>b)[)](c)".toList :=
      @LookaroundPattern.readsPlainly_of_counts _ _ 2
        (by decide +kernel) (by decide +kernel) (by decide +kernel) (by decide +kernel)
        (by decide +kernel)
    have knownWithout : LookaroundPattern.ReadsPlainly {} "(?<=\\()(x)(?>b)[)](c)".toList :=
      @LookaroundPattern.readsPlainly_of_counts _ _ 2
        (by decide +kernel) (by decide +kernel) (by decide +kernel) (by decide +kernel)
        (by decide +kernel)
    have text : (analyze "(?<=\\()(?<a>x)(?>b)[)](c)".toList).map (·.simplified) =
        .ok "(?<=\\()(x)(?>b)[)](c)".toList := by decide +kernel
    obtain ⟨compiled, accepted⟩ : ∃ compiled,
        (lookaroundEngine.compile "(?<=\\()(?<a>x)(?>b)[)](c)".toList {} ()).1 = .ok compiled :=
      exists_eq_ok_of_isOk (by decide +kernel)
    obtain ⟨expression, records, analyzed, taken, -, numbered, -, answers⟩ :=
      compile_answer_of_accepted lookaroundEngine_followsDialect known accepted
        (by decide +kernel) (by decide +kernel)
        (Text.not_nestsNumbered_of_analyze rfl (by decide +kernel))
    rw [analyzed] at text
    have written : expression.simplified = "(?<=\\()(x)(?>b)[)](c)".toList := Except.ok.inj text
    rw [written] at answers
    refine ⟨expression, records, taken, numbered.symm.trans (by decide +kernel), ?_⟩
    rw [answers knownWithout ()]
    decide +kernel
  · have known : LinearPattern.ReadsPlainly {} "(?s:a)(?P<b>[(])(?U)(c)".toList :=
      @LinearPattern.readsPlainly_of_counts _ _ 2
        (by decide +kernel) (by decide +kernel) (by decide +kernel) (by decide +kernel)
    have knownWithout : LinearPattern.ReadsPlainly {} "(?s:a)([(])(?U)(c)".toList :=
      @LinearPattern.readsPlainly_of_counts _ _ 2
        (by decide +kernel) (by decide +kernel) (by decide +kernel) (by decide +kernel)
    have text : (analyze "(?s:a)(?P<b>[(])(?U)(c)".toList).map (·.simplified) =
        .ok "(?s:a)([(])(?U)(c)".toList := by decide +kernel
    obtain ⟨compiled, accepted⟩ : ∃ compiled,
        (linearEngine.compile "(?s:a)(?P<b>[(])(?U)(c)".toList {} ()).1 = .ok compiled :=
      exists_eq_ok_of_isOk (by decide +kernel)
    obtain ⟨expression, records, analyzed, taken, -, numbered, -, answers⟩ :=
      compile_answer_of_accepted linearEngine_followsDialect known accepted
        (by decide +kernel) (by decide +kernel)
        (Text.not_nestsNumbered_of_analyze rfl (by decide +kernel))
    rw [analyzed] at text
    have written : expression.simplified = "(?s:a)([(])(?U)(c)".toList := Except.ok.inj text
    rw [written] at answers
    refine ⟨expression, records, taken, numbered.symm.trans (by decide +kernel), ?_⟩
    rw [answers knownWithout ()]
    decide +kernel

/-- In a dialect with comments this pattern is a comment and one group, and no group is
inside another one; the engine with lookaround accepts it with a slot for that group. The
analysis takes the comment for a group too. -/
theorem lookaroundEngine_alarmed_by_comment :
    let pattern : Text := "(?#c)(a)".toList
    (LookaroundPattern.compile pattern {}).map LookaroundPattern.captureSlots = .ok 2 ∧
    GroupCursor.Reaches true ⟨0, 0, pattern⟩ ⟨0, 1, []⟩ ∧
    pattern.keepsBlanks = true ∧
    ¬ pattern.NestsNumbered ∧
    ∃ expression records, ofPattern LookaroundPattern pattern {} = (.ok expression, records) ∧
      expression.table.size = 2 ∧
      (expression.compile lookaroundEngine ()).answer = .error (.alignment 2 1) := by
  have comment : GroupCursor.Step true ⟨0, 0, "(?#c)(a)".toList⟩ ⟨0, 0, "(a)".toList⟩ :=
    @GroupCursor.Step.comment true ['c'] 0 0 rfl (by decide) ['(', 'a', ')']
  have opening : GroupCursor.Step true ⟨0, 0, "(a)".toList⟩ ⟨1, 1, ['a', ')']⟩ :=
    .opening 0 0 (.plain (by decide))
  have item : GroupCursor.Step true ⟨1, 1, ['a', ')']⟩ ⟨1, 1, [')']⟩ :=
    .item 1 1 (.character _ (by decide) (by decide) (by decide) (by decide))
  have closing : GroupCursor.Step true ⟨1, 1, [')']⟩ ⟨0, 1, []⟩ := .closing 0 1 []
  exact ⟨by decide +kernel, .head comment (.head opening (.head item (.single closing))),
    by decide +kernel, Text.not_nestsNumbered_of_analyze rfl (by decide +kernel), _, _, rfl, rfl,
    rfl⟩

end NamedExpression

end NamedCapture
