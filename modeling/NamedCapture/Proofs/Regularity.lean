import NamedCapture.Proofs.Consumption
import NamedCapture.Proofs.Simplification

/-!
Contract: groups that keep blanks visible, are no comments, and lose no capture with
their names, in outlines and in the patterns that derive them.

Owns:
- the regular groups, and what is known of one before its end;
- the captures and the numbered openings of a regular outline, with names and without;
- what holds of the bodies of all groups of a text.

Does not own: which patterns have a regular outline.
-/

namespace NamedCapture

/-! ## Regular groups -/

/-- Whether a body is that of a comment for the dialect that has them. For the analysis
it is that of a capture. -/
def Text.startsComment (body : Text) : Bool :=
  "?#".toList.isPrefixOf body

/-- A body is that of a capture without a name, and of no comment. -/
structure Text.CapturesPlainly (body : Text) : Prop where
  captures : GroupKind.ofBody body = .capturing
  noComment : body.startsComment = false

/-- A body leaves blanks visible, and if its group captures then it still does without
its name, and has no other name. -/
structure Text.OpensRegularly (body : Text) : Prop where
  leavesBlanks : body.leavesBlanks = true
  unnamed : (GroupKind.ofBody body).isCapturing = true →
    Text.CapturesPlainly (body.drop (GroupKind.ofBody body).annotationLength)

theorem Text.OpensRegularly.noComment {body : Text} (regular : body.OpensRegularly) :
    body.startsComment = false := by
  by_contra comment
  rw [Bool.not_eq_false] at comment
  obtain ⟨inside, rfl⟩ := List.isPrefixOf_iff_prefix.mp comment
  have kindEq : GroupKind.ofBody ("?#".toList ++ inside) = .capturing := rfl
  have unnamed := regular.unnamed
  rw [kindEq] at unnamed
  exact absurd comment (Bool.eq_false_iff.mp (unnamed rfl).noComment)

theorem Text.leavesBlanks_of_takesNumber {body : Text} (takes : body.takesNumber = true) :
    body.leavesBlanks = true := by
  rw [takesNumber, Bool.and_eq_true, Option.isNone_iff_eq_none] at takes
  rw [leavesBlanks, takes.2]

theorem Text.flagList?_append_closing (inside after : Text) :
    flagList? (inside ++ ')' :: after) = flagList? (inside ++ [')']) := by
  cases inside with
  | nil => rfl
  | cons first inside =>
      have stops : GroupKind.isFlagLetter ')' = false := by decide
      by_cases question : first = '?'
      · subst question
        simp only [flagList?, List.cons_append, GroupKind.takeWhile_append_closing stops,
          GroupKind.head?_drop_append_closing]
      · simp [flagList?, question]

/-- What stands behind a group does not hide blanks. -/
theorem Text.leavesBlanks_append_closing (inside after : Text) :
    leavesBlanks (inside ++ ')' :: after) = leavesBlanks (inside ++ [')']) := by
  rw [leavesBlanks, leavesBlanks, flagList?_append_closing]

/-- What stands behind a group makes no comment of it. -/
theorem Text.capturesPlainly_append_closing (inside after : Text) :
    CapturesPlainly (inside ++ ')' :: after) ↔ CapturesPlainly (inside ++ [')']) := by
  have kinds : GroupKind.ofBody (inside ++ ')' :: after) = GroupKind.ofBody (inside ++ [')']) :=
    GroupKind.ofBody_append_closing inside after
  have comments : startsComment (inside ++ ')' :: after) = startsComment (inside ++ [')']) := by
    rcases inside with _ | ⟨first, _ | ⟨second, inside⟩⟩ <;> simp [startsComment, List.isPrefixOf]
  constructor
  · rintro ⟨captures, noComment⟩
    exact ⟨kinds ▸ captures, comments ▸ noComment⟩
  · rintro ⟨captures, noComment⟩
    exact ⟨kinds.trans captures, comments.trans noComment⟩

namespace Outline

/-- Every group, at any depth, leaves blanks visible, and is a plain capture without its
name if it captures. -/
def IsRegular : Outline → Prop
  | .done => True
  | .plain _ rest => rest.IsRegular
  | .group body rest =>
      (Text.leavesBlanks (body.text ++ [')']) = true ∧
        (body.kind.isCapturing = true → Text.CapturesPlainly (body.unnamed.text ++ [')']))) ∧
      body.IsRegular ∧ rest.IsRegular

/-- The number of capturing groups at any depth. -/
def captureCount : Outline → Nat
  | .done => 0
  | .plain _ rest => rest.captureCount
  | .group body rest =>
      (if body.kind.isCapturing then 1 else 0) + (body.captureCount + rest.captureCount)

theorem length_captures (outline : Outline) (offset : Nat) :
    (outline.captures offset).length = outline.captureCount := by
  induction outline generalizing offset with
  | done => rfl
  | plain item rest inductionHypothesis => exact inductionHypothesis _
  | group body rest bodyHypothesis restHypothesis =>
      rw [captures, captureCount, List.length_append, List.length_append, bodyHypothesis,
        restHypothesis]
      split <;> rfl

/-! ### Without names -/

theorem captureCount_dropItems (count : Nat) (outline : Outline) :
    (outline.dropItems count).captureCount = outline.captureCount := by
  induction outline generalizing count with
  | done => cases count <;> rfl
  | group body rest _ _ => cases count <;> rfl
  | plain item rest inductionHypothesis =>
      cases count with
      | zero => rfl
      | succ count => exact inductionHypothesis count

theorem IsRegular.dropItems
    {outline : Outline} (regular : outline.IsRegular) (count : Nat) :
    (outline.dropItems count).IsRegular := by
  induction outline generalizing count with
  | done => cases count <;> exact regular
  | group body rest _ _ => cases count <;> exact regular
  | plain item rest inductionHypothesis =>
      cases count with
      | zero => exact regular
      | succ count => exact inductionHypothesis regular count

theorem unnamed_of_kind_eq_capturing
    {body : Outline} (capturing : body.kind = .capturing) : body.unnamed = body := by
  rw [unnamed, capturing]
  cases body <;> rfl

theorem captureCount_simplified
    {outline : Outline} (regular : outline.IsRegular) :
    outline.simplified.captureCount = outline.captureCount := by
  induction outline with
  | done => rfl
  | plain item rest inductionHypothesis => exact inductionHypothesis regular
  | group body rest _ restHypothesis =>
      obtain ⟨⟨-, plain⟩, -, restRegular⟩ := regular
      have inside : body.unnamed.captureCount = body.captureCount :=
        body.captureCount_dropItems _
      rw [simplified, captureCount, captureCount, restHypothesis restRegular, inside]
      cases capturing : body.kind.isCapturing with
      | true =>
          have kindEq : body.unnamed.kind = .capturing := (plain capturing).captures
          rw [kindEq, GroupKind.isCapturing]
      | false => rw [unnamed_of_not_capturing capturing, capturing]

/-- Without their names the groups stay regular. -/
theorem IsRegular.simplified
    {outline : Outline} (regular : outline.IsRegular) : outline.simplified.IsRegular := by
  induction outline with
  | done => exact regular
  | plain item rest inductionHypothesis => exact inductionHypothesis regular
  | group body rest _ restHypothesis =>
      obtain ⟨⟨leaves, plain⟩, bodyRegular, restRegular⟩ := regular
      rw [Outline.simplified]
      refine ⟨?_, bodyRegular.dropItems _, restHypothesis restRegular⟩
      cases capturing : body.kind.isCapturing with
      | true =>
          have kindEq : body.unnamed.kind = .capturing := (plain capturing).captures
          have takes := Text.takesNumber_of_ofBody_eq_capturing kindEq
          refine ⟨Text.leavesBlanks_of_takesNumber takes, fun _ => ?_⟩
          rw [unnamed_of_kind_eq_capturing kindEq]
          exact plain capturing
      | false =>
          rw [unnamed_of_not_capturing capturing]
          exact ⟨leaves, plain⟩

end Outline

/-- A body is of the kind of its outline, whatever stands behind its end. -/
theorem Derives.ofBody_eq
    {text after : Text} {body : Outline} (derived : Derives text body (')' :: after)) :
    GroupKind.ofBody text = body.kind := by
  rw [derived.text_eq]
  exact body.classify_group after

/-- What is known of a body before its end is known of its outline, and the other way
round. -/
theorem Derives.opensRegularly_iff
    {text after : Text} {body : Outline} (derived : Derives text body (')' :: after)) :
    text.OpensRegularly ↔
      Text.leavesBlanks (body.text ++ [')']) = true ∧
        (body.kind.isCapturing = true →
          Text.CapturesPlainly (body.unnamed.text ++ [')'])) := by
  obtain ⟨label, bodyEq, lengthEq, -, -⟩ := derived.exists_label
  have textEq := derived.text_eq
  have leavesEq : text.leavesBlanks = Text.leavesBlanks (body.text ++ [')']) := by
    rw [textEq, Text.leavesBlanks_append_closing]
  have behind : text.drop body.kind.annotationLength = body.unnamed.text ++ ')' :: after := by
    rw [textEq, bodyEq, ← lengthEq, List.append_assoc, List.drop_left]
  rw [← leavesEq, ← Text.capturesPlainly_append_closing _ after, ← behind, ← derived.ofBody_eq]
  exact ⟨fun regular => ⟨regular.leavesBlanks, regular.unnamed⟩,
    fun known => ⟨known.1, known.2⟩⟩

/-! ## The bodies of a text -/

namespace Text

/-- What holds of the bodies of all groups of a text, read from outside of classes. -/
def EachBody (holds : Text → Prop) (text : Text) : Prop :=
  ∀ offset body, text.OpensAt offset body → holds body

variable {holds : Text → Prop}

theorem EachBody.here {body : Text} (each : EachBody holds ('(' :: body)) : holds body :=
  each 0 body ⟨[], rfl, rfl, rfl⟩

theorem EachBody.past
    {taken rest : Text} (each : EachBody holds (taken ++ rest)) (notEscape : '\\' ∉ taken)
    (notBracket : '[' ∉ taken) : EachBody holds rest := by
  rintro offset body ⟨before, rfl, -, outside⟩
  refine each _ body ⟨taken ++ before, by rw [List.append_assoc], rfl, ?_⟩
  rw [Place.after_append, Place.after_of_ordinary notEscape notBracket]
  exact outside

theorem EachBody.past_cons
    {character : Char} {text : Text} (each : EachBody holds (character :: text))
    (notEscape : character ≠ '\\') (notBracket : character ≠ '[') : EachBody holds text := by
  have split : EachBody holds ([character] ++ text) := each
  apply split.past
  · simpa using Ne.symm notEscape
  · simpa using Ne.symm notBracket

theorem EachBody.past_ordinary
    {text rest : Text} (each : EachBody holds text) (ordinary : text.OrdinaryUpTo rest) :
    EachBody holds rest := by
  obtain ⟨taken, rfl, ordinaryTaken⟩ := ordinary
  have absent {delimiter : Char} (special : delimiter ∈ delimiters) : delimiter ∉ taken :=
    fun member => ordinaryTaken delimiter member special
  exact each.past (absent (by decide)) (absent (by decide))

/-- A parenthesis is structural wherever a split of the text has it. -/
theorem opensAt_of_mem_parentheses
    {text before body : Text} (split : text = before ++ '(' :: body)
    (member : .opening before.byteLength ∈ text.parentheses) :
    text.OpensAt before.byteLength body := by
  obtain ⟨front, other, otherSplit, bytes, outside⟩ :=
    Place.opening_mem_parentheses_iff.mp member
  rw [Nat.zero_add] at bytes
  obtain ⟨rfl, -⟩ := append_inj_of_byteLength (otherSplit.symm.trans split) bytes
  exact ⟨front, split, rfl, outside⟩

/-- The structural parentheses of a text with an item are those behind the item. -/
theorem parentheses_of_plainItem
    {item rest : Text} (read : PlainItem (item ++ rest) rest) :
    parentheses (item ++ rest) = Place.outside.parentheses item.byteLength rest := by
  apply Place.parentheses_outside_of_plainItem read
  rw [byteLength_append, Nat.zero_add]

/-- The bodies of a text with an item are those behind the item. -/
theorem eachBody_iff_of_plainItem
    {text rest : Text} (read : PlainItem text rest) :
    EachBody holds text ↔ EachBody holds rest := by
  obtain ⟨item, -, rfl⟩ := read.exists_append
  have moved := parentheses_of_plainItem read
  constructor
  · rintro each offset body ⟨before, rfl, -, outside⟩
    apply each _ body
    apply opensAt_of_mem_parentheses (List.append_assoc _ _ _).symm
    rw [moved, byteLength_append]
    exact Place.opening_mem_parentheses_iff.mpr ⟨before, body, rfl, rfl, outside⟩
  · rintro each offset body ⟨before, split, rfl, outside⟩
    have member : .opening before.byteLength ∈ parentheses (item ++ rest) :=
      Place.opening_mem_parentheses_iff.mpr ⟨before, body, split, Nat.zero_add _, outside⟩
    rw [moved] at member
    obtain ⟨front, other, rfl, bytes, outsideFront⟩ :=
      Place.opening_mem_parentheses_iff.mp member
    rw [← byteLength_append] at bytes
    rw [← List.append_assoc] at split
    obtain ⟨-, tailEq⟩ := append_inj_of_byteLength split bytes
    obtain ⟨-, rfl⟩ := List.cons.inj tailEq
    exact each _ other ⟨front, rfl, rfl, outsideFront⟩

/-- The body of a group in front, if there is one, and the bodies behind. -/
theorem EachBody.cons
    {character : Char} {text : Text} (notEscape : character ≠ '\\') (notBracket : character ≠ '[')
    (here : character = '(' → holds text) (later : EachBody holds text) :
    EachBody holds (character :: text) := by
  rintro offset body ⟨before, split, -, outside⟩
  cases before with
  | nil =>
      obtain ⟨rfl, rfl⟩ := List.cons.inj split
      exact here rfl
  | cons first before =>
      obtain ⟨rfl, rfl⟩ := List.cons.inj split
      rw [Place.after_cons, Place.next_outside notEscape notBracket] at outside
      exact later _ body ⟨before, rfl, rfl, outside⟩

theorem eachBody_iff_forall_openings {text : Text} :
    EachBody holds text ↔
      ∀ opening ∈ text.openings, holds (Analysis.tailFrom text opening).tail := by
  constructor
  · intro each opening member
    obtain ⟨body, opens⟩ := mem_openings_iff.mp member
    rw [opens.tailFrom_eq]
    exact each opening body opens
  · intro each offset body opens
    have known := each offset (mem_openings_iff.mpr ⟨body, opens⟩)
    rwa [opens.tailFrom_eq] at known

instance [DecidablePred holds] (text : Text) : Decidable (EachBody holds text) :=
  decidable_of_iff _ eachBody_iff_forall_openings.symm

end Text

/-! ## Patterns with a regular outline -/

/-- The bodies of a text are regular if its outline is, and those of the rest are. -/
theorem Derives.eachBody_opensRegularly
    {text rest : Text} {outline : Outline} (derived : Derives text outline rest)
    (regular : outline.IsRegular) (behind : rest.EachBody Text.OpensRegularly) :
    text.EachBody Text.OpensRegularly := by
  induction derived with
  | done => exact behind
  | plain _ read _ inductionHypothesis =>
      exact (Text.eachBody_iff_of_plainItem read).mpr (inductionHypothesis regular behind)
  | @group text middle rest body outline inner _ bodyHypothesis restHypothesis =>
      obtain ⟨known, bodyRegular, restRegular⟩ := regular
      have later := restHypothesis restRegular behind
      have fromClosing : Text.EachBody Text.OpensRegularly (')' :: middle) :=
        .cons (by decide) (by decide) (fun opens => by cases opens) later
      exact .cons (by decide) (by decide) (fun _ => inner.opensRegularly_iff.mpr known)
        (bodyHypothesis bodyRegular fromClosing)

theorem Text.eachBody_nil (holds : Text → Prop) : EachBody holds [] := by
  rintro offset body ⟨before, split, -⟩
  cases before <;> cases split

theorem Derives.keepsBlanks
    {pattern : Text} {outline : Outline} (derived : Derives pattern outline [])
    (regular : outline.IsRegular) : pattern.keepsBlanks = true := by
  have each := derived.eachBody_opensRegularly regular (Text.eachBody_nil _)
  exact Text.keepsBlanks_iff.mpr fun offset body opens => (each offset body opens).leavesBlanks

/-- An engine numbers the captures of a regular outline. -/
theorem Derives.length_numberedOpenings
    {pattern : Text} {outline : Outline} (derived : Derives pattern outline [])
    (regular : outline.IsRegular) :
    pattern.numberedOpenings.length = outline.captureCount := by
  rw [Text.numberedOpenings_eq_captures (derived.keepsBlanks regular), derived.captures_eq,
    outline.length_captures]

end NamedCapture
