import NamedCapture.Proofs.Pairing
import NamedCapture.Proofs.Relocation

/-!
Contract: which of the defects of a pattern is reported, and where.

Owns:
- the capturing groups inside other groups, in an outline and in a pattern;
- the error of an outline that has some;
- the four verdicts on a pattern, of which exactly one holds, and the results of
  the scan and of the analysis under each.

Does not own: the table of an accepted pattern.
-/

namespace NamedCapture

/-! ## Captures inside groups of an outline -/

namespace Outline

/-- The offsets of the capturing groups that are inside another group, when the
outline starts at an offset. -/
def innerCaptures (offset : Nat) : Outline → List Nat
  | .done => []
  | .plain item rest => rest.innerCaptures (offset + item.byteLength)
  | .group body rest =>
      body.captures (offset + 1) ++ rest.innerCaptures (offset + body.width + 2)

theorem innerCaptures_eq_nil_iff (outline : Outline) (offset : Nat) :
    outline.innerCaptures offset = [] ↔ outline.isFlat = true := by
  induction outline generalizing offset with
  | done => simp [innerCaptures, isFlat]
  | plain item rest inductionHypothesis => exact inductionHypothesis _
  | group body rest _ restHypothesis =>
      rw [innerCaptures, isFlat, List.append_eq_nil_iff, captures_eq_nil_iff, restHypothesis]
      simp

theorem innerCaptures_sublist (outline : Outline) (offset : Nat) :
    (outline.innerCaptures offset).Sublist (outline.captures offset) := by
  induction outline generalizing offset with
  | done => exact .slnil
  | plain item rest inductionHypothesis => exact inductionHypothesis _
  | group body rest _ restHypothesis =>
      rw [innerCaptures, captures]
      exact ((List.Sublist.refl _).append (restHypothesis _)).trans
        (List.sublist_append_right _ _)

theorem opening_mem_parentheses_of_mem_captures
    {outline : Outline} {offset capture : Nat} (member : capture ∈ outline.captures offset) :
    .opening capture ∈ outline.parentheses offset := by
  induction outline generalizing offset with
  | done => cases member
  | plain item rest inductionHypothesis => exact inductionHypothesis member
  | group body rest bodyHypothesis restHypothesis =>
      rw [captures, List.mem_append, List.mem_append] at member
      rw [parentheses, List.mem_cons, List.mem_append, List.mem_cons]
      rcases member with here | inBody | inRest
      · split at here
        · rw [List.mem_singleton.mp here]
          exact .inl rfl
        · cases here
      · exact .inr (.inl (bodyHypothesis inBody))
      · exact .inr (.inr (.inr (restHypothesis inRest)))

/-- A capture inside a group has matching parentheses on both sides. -/
theorem exists_matched_of_mem_innerCaptures
    {outline : Outline} {offset capture : Nat}
    (member : capture ∈ outline.innerCaptures offset) :
    ∃ opening closing, Matched (outline.parentheses offset) opening closing ∧
      opening < capture ∧ capture < closing := by
  induction outline generalizing offset with
  | done => cases member
  | plain item rest inductionHypothesis => exact inductionHypothesis member
  | group body rest _ restHypothesis =>
      rw [innerCaptures, List.mem_append] at member
      rcases member with inBody | inRest
      · have bounds := bounds_of_mem_parentheses (opening_mem_parentheses_of_mem_captures inBody)
        rw [Parenthesis.offset] at bounds
        -- The group itself is around every capture in its body.
        refine ⟨offset, offset + body.width + 1, ⟨[], body.parentheses (offset + 1), _, rfl,
          body.balanced_parentheses _⟩, ?_, ?_⟩
        · omega
        · omega
      · obtain ⟨opening, closing, matched, around⟩ := restHypothesis inRest
        have moved := matched.append (.opening offset :: (body.parentheses (offset + 1) ++
          [.closing (offset + body.width + 1)])) []
        refine ⟨opening, closing, ?_, around⟩
        simpa [parentheses] using moved

/-- What comes before a capture that is not inside a group pairs up. -/
theorem exists_balanced_leading
    {outline : Outline} {offset capture : Nat} (member : capture ∈ outline.captures offset)
    (outermost : capture ∉ outline.innerCaptures offset) :
    ∃ leading trailing,
      outline.parentheses offset = leading ++ .opening capture :: trailing ∧
        Balanced leading := by
  induction outline generalizing offset with
  | done => cases member
  | plain item rest inductionHypothesis => exact inductionHypothesis member outermost
  | group body rest _ restHypothesis =>
      rw [captures, List.mem_append, List.mem_append] at member
      rw [innerCaptures, List.mem_append, not_or] at outermost
      rcases member with here | inBody | inRest
      · split at here
        · rw [List.mem_singleton.mp here]
          exact ⟨[], _, rfl, .nil⟩
        · cases here
      · exact absurd inBody outermost.1
      · obtain ⟨leading, trailing, split, balanced⟩ := restHypothesis inRest outermost.2
        refine ⟨.opening offset :: (body.parentheses (offset + 1) ++
          .closing (offset + body.width + 1) :: leading), trailing, ?_,
          .pair offset _ (body.balanced_parentheses _) balanced⟩
        rw [parentheses, split]
        simp

end Outline

/-- The first capture inside a group is the one that is reported. -/
theorem Analysis.absorbAll_groups_of_innerCapture
    (outline : Outline) (before after : Text) (progress : Progress)
    {pattern : Text} {offset capture : Nat}
    (patternEq : pattern = before ++ (outline.text ++ after))
    (offsetEq : offset = before.byteLength)
    (first : (outline.innerCaptures offset).head? = some capture) :
    absorbAll pattern progress (outline.groups offset) =
      .error (.captureInsideGroup capture) := by
  induction outline generalizing before after progress offset with
  | done => cases first
  | plain item rest inductionHypothesis =>
      apply inductionHypothesis (before ++ item) after progress _ _ first
      · rw [patternEq, Outline.text, List.append_assoc, List.append_assoc]
      · rw [offsetEq, Text.byteLength_append]
  | group body rest _ restHypothesis =>
      rw [Outline.text_group_append] at patternEq
      have absorbed := absorb_group body before (rest.text ++ after) progress patternEq offsetEq
      rw [Outline.groups, absorbAll, absorbed]
      rw [Outline.innerCaptures] at first
      cases inner : body.captures (offset + 1) with
      | cons reported captures =>
          rw [inner, List.cons_append, List.head?_cons, Option.some.injEq] at first
          rw [List.head?_cons, first]
      | nil =>
          rw [inner, List.nil_append] at first
          apply restHypothesis (before ++ body.content) after _ _ _ first
          · rw [patternEq, List.append_assoc]
          · rw [offsetEq, Text.byteLength_append, Outline.byteLength_content, Nat.add_assoc]

theorem Derives.analyze_of_innerCapture
    {pattern : Text} {outline : Outline} (derived : Derives pattern outline [])
    {capture : Nat} (first : (outline.innerCaptures 0).head? = some capture) :
    analyze pattern = .error (.captureInsideGroup capture) := by
  have absorbed : Analysis.absorbAll pattern ⟨[], []⟩ (outline.groups 0) =
      .error (.captureInsideGroup capture) :=
    Analysis.absorbAll_groups_of_innerCapture outline [] [] _ derived.text_eq rfl first
  rw [analyze, scanPattern_of_derives derived]
  simp only [absorbed]

/-! ## Captures inside groups of a pattern -/

/-- A structural opening parenthesis that lies inside a group and opens a capturing
group. -/
def Text.IsInnerCapture (pattern : Text) (capture : Nat) : Prop :=
  (∃ body, pattern.OpensAt capture body ∧
    (GroupKind.classify ('(' :: body)).isCapturing = true) ∧
  ∃ opening closing, pattern.Encloses opening closing ∧
    opening < capture ∧ capture < closing

/-- A group that starts in the balanced list before a parenthesis also ends there. -/
theorem Text.closing_lt_of_balanced_leading
    {pattern : Text} {leading trailing : List Parenthesis} {parenthesis : Parenthesis}
    (split : pattern.parentheses = leading ++ parenthesis :: trailing)
    (balanced : Balanced leading) {opening closing : Nat}
    (encloses : pattern.Encloses opening closing) (before : opening < parenthesis.offset) :
    closing < parenthesis.offset := by
  have member : .opening opening ∈ pattern.parentheses := by
    obtain ⟨front, inside, back, other, -⟩ := encloses
    simp [other]
  have inLeading := mem_before_of_offset_lt split member before
  obtain ⟨partner, matched⟩ := balanced.exists_partner.1 opening inLeading
  have partnerEncloses := matched.append [] (parenthesis :: trailing)
  rw [List.nil_append, ← split] at partnerEncloses
  rw [encloses.closing_unique partnerEncloses]
  have ordered := pattern.parentheses_pairwise
  rw [split, List.pairwise_append] at ordered
  exact ordered.2.2 _ matched.mem.2 _ List.mem_cons_self

theorem Derives.pattern_parentheses_eq
    {pattern : Text} {outline : Outline} (derived : Derives pattern outline []) :
    pattern.parentheses = outline.parentheses 0 := by
  rw [Text.parentheses, derived.parentheses_eq 0, Place.parentheses_nil, List.append_nil]

theorem Derives.balanced
    {pattern : Text} {outline : Outline} (derived : Derives pattern outline []) :
    Balanced pattern.parentheses := by
  rw [derived.pattern_parentheses_eq]
  exact outline.balanced_parentheses 0

theorem Derives.mem_innerCaptures_iff
    {pattern : Text} {outline : Outline} (derived : Derives pattern outline [])
    {capture : Nat} :
    capture ∈ outline.innerCaptures 0 ↔ pattern.IsInnerCapture capture := by
  have parenthesesEq := derived.pattern_parentheses_eq
  rw [Text.IsInnerCapture, ← Text.mem_captures_iff, derived.captures_eq]
  constructor
  · intro member
    refine ⟨(outline.innerCaptures_sublist 0).subset member, ?_⟩
    obtain ⟨opening, closing, matched, around⟩ :=
      Outline.exists_matched_of_mem_innerCaptures member
    rw [← parenthesesEq] at matched
    exact ⟨opening, closing, matched, around⟩
  · rintro ⟨member, opening, closing, encloses, before, after⟩
    -- An outermost capture would come behind a balanced list, so behind that group.
    by_contra outermost
    obtain ⟨leading, trailing, split, balanced⟩ :=
      Outline.exists_balanced_leading member outermost
    rw [← parenthesesEq] at split
    have ended := Text.closing_lt_of_balanced_leading split balanced encloses before
    exact Nat.lt_asymm ended after

theorem Derives.isLeast_isInnerCapture
    {pattern : Text} {outline : Outline} (derived : Derives pattern outline [])
    {capture : Nat} (first : (outline.innerCaptures 0).head? = some capture) :
    IsLeast { inner | pattern.IsInnerCapture inner } capture := by
  obtain ⟨later, innerEq⟩ := List.head?_eq_some_iff.mp first
  have ordered := pattern.captures_pairwise.sublist
    (derived.captures_eq ▸ outline.innerCaptures_sublist 0)
  rw [innerEq, List.pairwise_cons] at ordered
  refine ⟨derived.mem_innerCaptures_iff.mp (by simp [innerEq]), ?_⟩
  intro other inner
  have member := derived.mem_innerCaptures_iff.mpr inner
  rw [innerEq, List.mem_cons] at member
  rcases member with rfl | inLater
  · exact Nat.le_refl other
  · exact Nat.le_of_lt (ordered.1 other inLater)

theorem Text.IsInnerCapture.mem_parentheses
    {pattern : Text} {capture : Nat} (inner : pattern.IsInnerCapture capture) :
    .opening capture ∈ pattern.parentheses := by
  obtain ⟨⟨body, ⟨before, split, offsetEq, outside⟩, -⟩, -⟩ := inner
  apply Place.opening_mem_parentheses_iff.mpr
  exact ⟨before, body, split, by omega, outside⟩

/-! ## Verdicts -/

/-- What is wrong with the groups of a pattern, and at which parenthesis. -/
inductive Verdict where
  | stray (closing : Nat)
  | unclosed (opening : Nat)
  | innerCapture (opening : Nat)
  | accepted
deriving DecidableEq, Repr

namespace Verdict

/-- A closing parenthesis without a partner comes first, an opening one second, and a
capture inside a group last. The first one of its kind is at fault, except that it is
the last opening parenthesis that is never closed. -/
def Holds (pattern : Text) : Verdict → Prop
  | .stray closing => IsLeast { stray | pattern.IsStray stray } closing
  | .unclosed opening =>
      (∀ stray, ¬ pattern.IsStray stray) ∧
        IsGreatest { unclosed | pattern.IsUnclosed unclosed } opening
  | .innerCapture opening =>
      (∀ stray, ¬ pattern.IsStray stray) ∧ (∀ unclosed, ¬ pattern.IsUnclosed unclosed) ∧
        IsLeast { inner | pattern.IsInnerCapture inner } opening
  | .accepted =>
      (∀ stray, ¬ pattern.IsStray stray) ∧ (∀ unclosed, ¬ pattern.IsUnclosed unclosed) ∧
        ∀ inner, ¬ pattern.IsInnerCapture inner

/-- The error of the scan, which knows nothing of captures. -/
def imbalance? : Verdict → Option PatternError
  | .stray closing => some (.unmatchedClose closing)
  | .unclosed opening => some (.unclosedGroup opening)
  | .innerCapture _ => none
  | .accepted => none

/-- The error of the analysis. -/
def error? : Verdict → Option PatternError
  | .stray closing => some (.unmatchedClose closing)
  | .unclosed opening => some (.unclosedGroup opening)
  | .innerCapture opening => some (.captureInsideGroup opening)
  | .accepted => none

theorem Holds.unique
    {pattern : Text} {first second : Verdict}
    (firstHolds : first.Holds pattern) (secondHolds : second.Holds pattern) :
    first = second := by
  cases first <;> cases second
  case stray.stray => exact congrArg stray (IsLeast.unique firstHolds secondHolds)
  case unclosed.unclosed => exact congrArg unclosed (firstHolds.2.unique secondHolds.2)
  case innerCapture.innerCapture =>
    exact congrArg innerCapture (firstHolds.2.2.unique secondHolds.2.2)
  case accepted.accepted => rfl
  -- One of two different verdicts names a parenthesis that the other one excludes.
  case stray.unclosed | stray.innerCapture | stray.accepted =>
    exact absurd firstHolds.1 (secondHolds.1 _)
  case unclosed.stray | innerCapture.stray | accepted.stray =>
    exact absurd secondHolds.1 (firstHolds.1 _)
  case unclosed.innerCapture | unclosed.accepted =>
    exact absurd firstHolds.2.1 (secondHolds.2.1 _)
  case innerCapture.unclosed | accepted.unclosed =>
    exact absurd secondHolds.2.1 (firstHolds.2.1 _)
  case innerCapture.accepted => exact absurd firstHolds.2.2.1 (secondHolds.2.2 _)
  case accepted.innerCapture => exact absurd secondHolds.2.2.1 (firstHolds.2.2 _)

/-- The parenthesis at fault is a structural one. -/
theorem Holds.exists_parenthesis
    {pattern : Text} {verdict : Verdict} (holds : verdict.Holds pattern)
    {error : PatternError} (reported : verdict.error? = some error) :
    ∃ parenthesis ∈ pattern.parentheses, parenthesis.offset = error.defect.position := by
  cases verdict with
  | stray closing =>
      cases reported
      exact ⟨.closing closing, holds.1.1, rfl⟩
  | unclosed opening =>
      cases reported
      exact ⟨.opening opening, holds.2.1.1, rfl⟩
  | innerCapture opening =>
      cases reported
      exact ⟨.opening opening, holds.2.2.1.mem_parentheses, rfl⟩
  | accepted => cases reported

end Verdict

/-- The result fails with this error, or succeeds when there is none. -/
def EndsIn {Value : Type} (result : Except PatternError Value) : Option PatternError → Prop
  | some error => result = .error error
  | none => ∃ value, result = .ok value

theorem analyze_of_scanPattern_error
    {pattern : Text} {error : PatternError} (scanned : scanPattern pattern = .error error) :
    analyze pattern = .error error := by
  rw [analyze, scanned]

theorem scanGroups_of_scanPattern_error
    {pattern : Text} {error : PatternError} (scanned : scanPattern pattern = .error error) :
    scanGroups pattern = .error error := by
  rw [scanGroups, scanned]
  rfl

/-- A verdict on an outline, by the first capture inside a group. -/
theorem Derives.exists_verdict
    {pattern : Text} {outline : Outline} (derived : Derives pattern outline []) :
    ∃ verdict : Verdict, verdict.Holds pattern ∧
      EndsIn (analyze pattern) verdict.error? ∧
      EndsIn (scanGroups pattern) verdict.imbalance? := by
  have noStray := Text.not_isStray_of_leavesOpen (.balanced derived.balanced)
  have noUnclosed := Text.not_isUnclosed_of_balanced derived.balanced
  have scanned : ∃ spans, scanGroups pattern = .ok spans := by
    rw [scanGroups, scanPattern_of_derives derived]
    exact ⟨_, rfl⟩
  cases first : (outline.innerCaptures 0).head? with
  | some capture =>
      exact ⟨.innerCapture capture,
        ⟨noStray, noUnclosed, derived.isLeast_isInnerCapture first⟩,
        derived.analyze_of_innerCapture first, scanned⟩
  | none =>
      have noInner := List.head?_eq_none_iff.mp first
      have flat := (outline.innerCaptures_eq_nil_iff 0).mp noInner
      refine ⟨.accepted, ⟨noStray, noUnclosed, ?_⟩,
        ⟨outline.analysis, derived.analyze_eq_ok_iff.mpr ⟨flat, rfl⟩⟩, scanned⟩
      intro inner isInner
      have member := derived.mem_innerCaptures_iff.mpr isInner
      rw [noInner] at member
      cases member

theorem exists_verdict (pattern : Text) :
    ∃ verdict : Verdict, verdict.Holds pattern ∧
      EndsIn (analyze pattern) verdict.error? ∧
      EndsIn (scanGroups pattern) verdict.imbalance? := by
  rcases leavesOpen_or_stray pattern.parentheses with
    ⟨opened, leaves⟩ | ⟨leading, closing, trailing, split, balanced⟩
  · cases opened with
    | cons innermost opened =>
        have scanned := scanPattern_of_leavesOpen leaves
        exact ⟨.unclosed innermost,
          ⟨Text.not_isStray_of_leavesOpen leaves, Text.isGreatest_isUnclosed leaves⟩,
          analyze_of_scanPattern_error scanned, scanGroups_of_scanPattern_error scanned⟩
    | nil =>
        obtain ⟨outline, derived⟩ := exists_derives_of_balanced leaves.balanced_of_nil
        exact derived.exists_verdict
  · have scanned := scanPattern_of_stray split balanced
    exact ⟨.stray closing, Text.isLeast_isStray split balanced,
      analyze_of_scanPattern_error scanned, scanGroups_of_scanPattern_error scanned⟩

theorem Text.getElem?_bytes_of_mem_parentheses
    {pattern : Text} {parenthesis : Parenthesis}
    (member : parenthesis ∈ pattern.parentheses) :
    pattern.bytes[parenthesis.offset]? = some 0x28 ∨
      pattern.bytes[parenthesis.offset]? = some 0x29 := by
  obtain ⟨before, after, character, split, offsetEq, known⟩ :=
    Place.exists_split_of_mem_parentheses member
  rw [Nat.zero_add] at offsetEq
  rw [split, bytes_append, ← offsetEq, ← length_bytes, List.getElem?_append_right (Nat.le_refl _),
    Nat.sub_self]
  rcases known with rfl | rfl
  · exact .inl rfl
  · exact .inr rfl

/-- Exactly one verdict holds of a pattern, by descriptions that mention no scan, and it
decides how the analysis and the scan end. The analysis reports an imbalance before a
capture inside a group, wherever they are. The scan fails for an imbalance alone, with
the same error. What is reported is the offset of a parenthesis of the pattern. -/
theorem analyze_verdict (pattern : Text) :
    (∃! verdict : Verdict, verdict.Holds pattern) ∧
    ∀ verdict : Verdict, verdict.Holds pattern →
      EndsIn (analyze pattern) verdict.error? ∧
      EndsIn (scanGroups pattern) verdict.imbalance? ∧
      ∀ error, verdict.error? = some error →
        pattern.bytes[error.defect.position]? = some 0x28 ∨
          pattern.bytes[error.defect.position]? = some 0x29 := by
  obtain ⟨verdict, holds, analyzed, scanned⟩ := exists_verdict pattern
  constructor
  · exact ⟨verdict, holds, fun other otherHolds => otherHolds.unique holds⟩
  · intro other otherHolds
    rw [otherHolds.unique holds]
    refine ⟨analyzed, scanned, ?_⟩
    intro error reported
    obtain ⟨parenthesis, member, offsetEq⟩ := holds.exists_parenthesis reported
    rw [← offsetEq]
    exact Text.getElem?_bytes_of_mem_parentheses member

/-- The capture inside the first group hides neither parenthesis that is never closed. -/
example : analyze "((a)(".toList = .error (.unclosedGroup 4) := rfl

end NamedCapture
