import Mathlib.Data.List.Nodup
import NamedCapture.Proofs.Excisions
import NamedCapture.Proofs.Numbering
import NamedCapture.Proofs.Simplification

/-!
Contract: the simplified pattern is the pattern without its name annotations and
lacks nothing else.

Owns:
- the annotations of a pattern, found from its table alone;
- the annotated bytes of a pattern, found without its table;
- the bytes that are left, and how the annotations are put back.

Does not own: how the simplified pattern is read.
-/

namespace NamedCapture

/-! ## Annotations of a table -/

/-- The two ways to write an annotation that gives a name. -/
def GroupKind.spellings (name : Text) : List Text :=
  nameOpenings.map fun opening => opening ++ name ++ ['>']

/-- The spans behind a group's parenthesis at which a pattern spells the group's
name. -/
def GroupDefinition.annotations (group : GroupDefinition) (pattern : Text) : List Span :=
  let spellings := group.name.toList.flatMap GroupKind.spellings
  let spanOf (spelling : Text) :=
    Analysis.annotationSpan group.span.start spelling.byteLength
  (spellings.filter fun spelling =>
    pattern.sliceAt? (spanOf spelling) = some spelling).map spanOf

def GroupTable.annotations (table : GroupTable) (pattern : Text) : List Span :=
  table.groups.flatMap (·.annotations pattern)

namespace GroupKind

theorem IsLabel.mem_spellings {label name : Text} (written : IsLabel label name) :
    label ∈ spellings name := by
  obtain ⟨opening, known, rfl, -, -⟩ := written
  exact List.mem_map_of_mem known

theorem IsLabel.ne_nil {label name : Text} (written : IsLabel label name) : label ≠ [] := by
  obtain ⟨opening, -, rfl, -, -⟩ := written
  simp

theorem IsLabel.byteLength_eq {label name : Text} (written : IsLabel label name) :
    label.byteLength = label.length :=
  Text.byteLength_eq_length fun _ member => written.utf8Size member

theorem spellings_nodup (name : Text) : (spellings name).Nodup := by
  simp [spellings, nameOpenings]

/-- No text starts with both spellings of a name. -/
theorem eq_of_mem_spellings
    {name first second firstRest secondRest : Text}
    (firstSpelling : first ∈ spellings name) (secondSpelling : second ∈ spellings name)
    (same : first ++ firstRest = second ++ secondRest) :
    first = second := by
  simp only [spellings, nameOpenings, List.map_cons, List.map_nil, List.mem_cons,
    List.not_mem_nil, or_false] at firstSpelling secondSpelling
  rcases firstSpelling with rfl | rfl <;> rcases secondSpelling with rfl | rfl
  · rfl
  · simp at same
  · simp at same
  · rfl

end GroupKind

/-- Where a pattern spells the name of a group behind the group's parenthesis, it
does so once. -/
theorem GroupDefinition.annotations_eq_of_label
    {group : GroupDefinition} {pattern before label name after : Text}
    (split : pattern = before ++ '(' :: (label ++ after))
    (startEq : group.span.start = before.byteLength)
    (nameEq : group.name = some name)
    (written : GroupKind.IsLabel label name) :
    group.annotations pattern =
      [Analysis.annotationSpan group.span.start label.byteLength] := by
  have opened : pattern = (before ++ ['(']) ++ (label ++ after) := by
    rw [split]
    simp
  have bodyStart : group.span.start + 1 = Text.byteLength (before ++ ['(']) := by
    rw [startEq, Text.byteLength_append]
    rfl
  have spelled : ∀ spelling ∈ GroupKind.spellings name,
      (decide (pattern.sliceAt? (Analysis.annotationSpan group.span.start
        spelling.byteLength) = some spelling)) = (spelling == label) := by
    intro spelling member
    rw [Bool.eq_iff_iff, decide_eq_true_eq, beq_iff_eq, Text.sliceAt?,
      Text.slice?_eq_some_iff]
    constructor
    · rintro ⟨front, back, frontSplit, frontEq, -⟩
      rw [opened] at frontSplit
      obtain ⟨-, rest⟩ := Text.append_inj_of_byteLength frontSplit
        (by rw [← bodyStart]; exact frontEq)
      exact GroupKind.eq_of_mem_spellings member written.mem_spellings rest.symm
    · rintro rfl
      exact ⟨_, after, opened, bodyStart, by rw [← bodyStart]; rfl⟩
  have once : (GroupKind.spellings name).filter (fun spelling => spelling == label) =
      [label] := by
    rw [List.filter_beq, List.count_eq_one_of_mem (GroupKind.spellings_nodup name)
      written.mem_spellings]
    rfl
  rw [annotations, nameEq]
  simp only [Option.toList_some, List.flatMap_singleton]
  rw [List.filter_congr spelled, once]
  rfl

theorem GroupDefinition.annotations_eq_nil
    {group : GroupDefinition} (unnamed : group.name = none) (pattern : Text) :
    group.annotations pattern = [] := by
  rw [annotations, unnamed]
  rfl

/-! ## Annotations of an outline -/

namespace Outline

/-- The annotation that a group's body starts with. -/
def label (body : Outline) : Text :=
  body.text.take body.kind.annotationLength

/-- The label of a named group spells its name. -/
theorem isLabel_label
    {body : Outline} {name : Text} {annotationLength : Nat}
    (named : body.kind = .named name annotationLength) :
    GroupKind.IsLabel body.label name ∧ body.label.length = annotationLength := by
  have ofBody : GroupKind.ofBody (body.text ++ [')']) = .named name annotationLength := named
  obtain ⟨label, rest, split, written, lengthEq⟩ := GroupKind.exists_label_of_named ofBody
  have noClosing : ')' ∉ label := written.not_mem rfl (by decide)
  obtain ⟨gap, textEq⟩ : ∃ gap, body.text = label ++ gap := by
    rcases List.append_eq_append_iff.mp split with ⟨gap, labelEq, closing⟩ | ⟨gap, textEq, -⟩
    · cases gap with
      | nil => exact ⟨[], by rw [labelEq]; simp⟩
      | cons first gap =>
          obtain ⟨rfl, -⟩ := List.cons.inj closing
          rw [labelEq] at noClosing
          exact absurd (List.mem_append_right _ List.mem_cons_self) noClosing
    · exact ⟨gap, textEq⟩
  have labelEq : body.label = label := by
    rw [Outline.label, named, textEq, GroupKind.annotationLength, lengthEq, List.take_left]
  rw [labelEq]
  exact ⟨written, lengthEq.symm⟩

/-- The annotations of the entries of an outline are those of its outermost
groups. -/
theorem flatMap_annotations_definitions
    (outline : Outline) (before after : Text) (offset index : Nat) {pattern : Text}
    (patternEq : pattern = before ++ (outline.text ++ after))
    (offsetEq : offset = before.byteLength) :
    (outline.definitions offset index).flatMap (·.annotations pattern) =
      outline.annotations offset := by
  induction outline generalizing before after offset index with
  | done => rfl
  | plain item rest inductionHypothesis =>
      refine inductionHypothesis (before ++ item) after _ index ?_ ?_
      · rw [patternEq, text, List.append_assoc, List.append_assoc]
      · rw [offsetEq, Text.byteLength_append]
  | group body rest _ restHypothesis =>
      rw [text_group_append] at patternEq
      have later (next : Nat) := restHypothesis (before ++ body.content) after
        (offset + body.width + 2) next (by rw [patternEq, List.append_assoc])
        (by rw [offsetEq, Text.byteLength_append, byteLength_content, Nat.add_assoc])
      rw [definitions, annotations]
      cases kindEq : body.kind with
      | named name annotationLength =>
          obtain ⟨written, lengthEq⟩ := isLabel_label kindEq
          have split : pattern = before ++ '(' :: (body.label ++
              (body.text.drop annotationLength ++ ')' :: (rest.text ++ after))) := by
            have bodyEq : body.label ++ body.text.drop annotationLength = body.text := by
              rw [label, kindEq]
              exact List.take_append_drop _ _
            rw [patternEq, content, ← List.append_assoc body.label, bodyEq]
            simp
          simp only [GroupKind.isCapturing, if_true, GroupKind.name?, List.flatMap_cons]
          rw [GroupDefinition.annotations_eq_of_label split offsetEq rfl written, later,
            annotationOf, written.byteLength_eq, lengthEq]
      | capturing =>
          simp only [GroupKind.isCapturing, if_true, GroupKind.name?, List.flatMap_cons]
          rw [GroupDefinition.annotations_eq_nil rfl, later]
          rfl
      | nonCapturing =>
          simp only [GroupKind.isCapturing, Bool.false_eq_true, if_false]
          rw [later]
          rfl
      | lookaround =>
          simp only [GroupKind.isCapturing, Bool.false_eq_true, if_false]
          rw [later]
          rfl

/-- The segments of an outline's text: the annotations of its outermost groups are
removed. -/
def segments : Outline → List Segment
  | .done => []
  | .plain item rest => .kept item :: rest.segments
  | .group body rest =>
      match body.kind with
      | .named _ _ =>
          .kept ['('] :: .removed body.label :: .kept (body.unnamed.text ++ [')']) ::
            rest.segments
      | _ => .kept body.content :: rest.segments

end Outline

theorem Derives.annotations_table
    {pattern : Text} {outline : Outline} (derived : Derives pattern outline []) :
    outline.analysis.table.annotations pattern = outline.annotations 0 :=
  outline.flatMap_annotations_definitions [] [] 0 0 derived.text_eq rfl

theorem Derives.label_append_unnamed
    {text after : Text} {body : Outline} (derived : Derives text body (')' :: after)) :
    body.text = body.label ++ body.unnamed.text := by
  obtain ⟨label, bodyEq, lengthEq, -, -⟩ := derived.exists_label
  have labelEq : body.label = label := by
    rw [Outline.label, bodyEq, ← lengthEq, List.take_left]
  rw [labelEq]
  exact bodyEq

/-- The segments of a group are its annotation, removed, between its parenthesis and
its body, kept. -/
theorem Derives.segments_group
    {text middle : Text} {body : Outline} (inner : Derives text body (')' :: middle))
    (rest : Outline) :
    Segment.whole (Outline.group body rest).segments =
        body.content ++ Segment.whole rest.segments ∧
      Segment.remainder (Outline.group body rest).segments =
        body.unnamed.content ++ Segment.remainder rest.segments ∧
      ∀ offset, Segment.removedSpans offset (Outline.group body rest).segments =
        Outline.annotationOf offset body.kind ++
          Segment.removedSpans (offset + body.width + 2) rest.segments := by
  have bodyEq := inner.label_append_unnamed
  have widthEq := inner.width_eq
  cases kindEq : body.kind with
  | named name annotationLength =>
      obtain ⟨written, lengthEq⟩ := Outline.isLabel_label kindEq
      have segmentsEq : (Outline.group body rest).segments =
          .kept ['('] :: .removed body.label :: .kept (body.unnamed.text ++ [')']) ::
            rest.segments := by
        rw [Outline.segments, kindEq]
      refine ⟨?_, ?_, fun offset => ?_⟩
      · rw [segmentsEq, Outline.content, bodyEq]
        simp [Segment.whole, Segment.text]
      · rw [segmentsEq, Outline.content]
        simp [Segment.remainder, Segment.keptText]
      · have opening : Text.byteLength ['('] = 1 := rfl
        have closing : Text.byteLength [')'] = 1 := rfl
        have unnamedWidth : Text.byteLength body.unnamed.text = body.unnamed.width := rfl
        have labelBytes : body.label.byteLength = annotationLength := by
          rw [written.byteLength_eq, lengthEq]
        rw [kindEq, GroupKind.annotationLength] at widthEq
        have groupEnd : offset + 1 + annotationLength + (body.unnamed.width + 1) =
            offset + body.width + 2 := by omega
        rw [segmentsEq, ← groupEnd]
        simp only [Segment.removedSpans, Text.byteLength_append, opening, closing,
          unnamedWidth, labelBytes]
        rfl
  | _ =>
      have segmentsEq : (Outline.group body rest).segments =
          .kept body.content :: rest.segments := by
        rw [Outline.segments, kindEq]
      have unnamedEq : body.unnamed = body := by
        rw [Outline.unnamed, kindEq]
        cases body <;> rfl
      refine ⟨?_, ?_, fun offset => ?_⟩
      · rw [segmentsEq]
        rfl
      · rw [segmentsEq, unnamedEq]
        rfl
      · rw [segmentsEq, Segment.removedSpans, Outline.byteLength_content]
        rfl

/-- The segments of a derived outline make up its text, leave the text of the
simplified outline, and remove its annotations. -/
theorem Derives.segments_spec
    {text rest : Text} {outline : Outline} (derived : Derives text outline rest) :
    Segment.whole outline.segments = outline.text ∧
      Segment.remainder outline.segments = outline.simplified.text ∧
      ∀ offset, Segment.removedSpans offset outline.segments = outline.annotations offset := by
  induction derived with
  | done text => exact ⟨rfl, rfl, fun _ => rfl⟩
  | plain _ _ _ inductionHypothesis =>
      obtain ⟨wholeEq, remainderEq, spansEq⟩ := inductionHypothesis
      refine ⟨?_, ?_, fun offset => spansEq _⟩
      · rw [Outline.text, ← wholeEq]
        rfl
      · rw [Outline.simplified, Outline.text, ← remainderEq]
        rfl
  | @group text middle rest body outline inner _ _ restHypothesis =>
      obtain ⟨wholeEq, remainderEq, spansEq⟩ := restHypothesis
      obtain ⟨groupWhole, groupRemainder, groupSpans⟩ := inner.segments_group outline
      refine ⟨?_, ?_, fun offset => ?_⟩
      · rw [groupWhole, wholeEq]
        simp [Outline.text, Outline.content]
      · rw [groupRemainder, remainderEq]
        simp [Outline.simplified, Outline.text, Outline.content]
      · rw [groupSpans, spansEq]
        rfl

/-! ## Annotated bytes -/

namespace Text

/-- At an offset the pattern has a byte of an annotation that stands directly
behind a structural opening parenthesis. -/
def IsAnnotated (pattern : Text) (offset : Nat) : Prop :=
  ∃ (start : Nat) (label name after : Text),
    pattern.OpensAt start (label ++ after) ∧ GroupKind.IsLabel label name ∧
    start < offset ∧ offset ≤ start + label.byteLength

/-- A parenthesis, and a text behind it without another one, that give no name: the
parenthesis is escaped or in a class, or no annotation follows it. -/
structure IsLookAlike (pattern before written after : Text) : Prop where
  split : pattern = before ++ '(' :: (written ++ after)
  noOpening : '(' ∉ written
  literal : Place.outside.after before ≠ .outside ∨
    ∀ label name rest : Text, GroupKind.IsLabel label name →
      written ++ after ≠ label ++ rest

/-- A character that stands behind a parenthesis, and no further behind it than some
text reaches, belongs to that text. -/
theorem mem_of_behind_opening
    {front middle rest before back : Text} {character : Char}
    (same : front ++ '(' :: (middle ++ rest) = before ++ character :: back)
    (lower : front.byteLength < before.byteLength)
    (upper : before.byteLength ≤ front.byteLength + middle.byteLength) :
    character ∈ middle := by
  have opening : byteLength ['('] = 1 := rfl
  have moved : (front ++ ['(']) ++ (middle ++ rest) = before ++ character :: back := by
    rw [← same]
    simp
  apply mem_of_append_eq moved
  · rw [byteLength_append, opening]
    omega
  · rw [byteLength_append, opening]
    omega

theorem OpensAt.body_unique {pattern first second : Text} {offset : Nat}
    (opensFirst : pattern.OpensAt offset first)
    (opensSecond : pattern.OpensAt offset second) :
    first = second := by
  have same := opensFirst.tailFrom_eq
  rw [opensSecond.tailFrom_eq] at same
  exact (List.cons.inj same).2.symm

/-- An annotation has no parenthesis, so one that reaches into a look-alike would
have to start with it. -/
theorem IsLookAlike.not_isAnnotated
    {pattern before written after : Text} (look : pattern.IsLookAlike before written after)
    {offset : Nat} (lower : before.byteLength ≤ offset)
    (upper : offset < before.byteLength + byteLength ('(' :: written)) :
    ¬ pattern.IsAnnotated offset := by
  rintro ⟨start, label, name, rest, ⟨front, frontSplit, frontEq, outside⟩, isLabel,
    below, above⟩
  have opening : '('.utf8Size = 1 := rfl
  have same := look.split.symm.trans frontSplit
  rw [byteLength_cons, opening] at upper
  rcases Nat.lt_trichotomy start before.byteLength with less | equal | greater
  · have inLabel : '(' ∈ label := mem_of_behind_opening same.symm (by omega) (by omega)
    exact isLabel.not_mem rfl (by decide) inLabel
  · obtain ⟨rfl, bodyEq⟩ := append_inj_of_byteLength same (by omega)
    rcases look.literal with hidden | unnamed
    · exact hidden outside
    · exact unnamed label name rest isLabel (List.cons.inj bodyEq).2
  · have inWritten : '(' ∈ written := mem_of_behind_opening same (by omega) (by omega)
    exact look.noOpening inWritten

end Text

/-- A named entry of an accepted pattern starts with the annotation that gives its
name. -/
theorem Derives.exists_label_of_mem_definitions
    {pattern : Text} {outline : Outline} (derived : Derives pattern outline [])
    (flat : outline.isFlat = true) {group : GroupDefinition} {name : Text}
    (member : group ∈ outline.definitions 0 0) (nameEq : group.name = some name) :
    ∃ label after, pattern.OpensAt group.span.start (label ++ after) ∧
      GroupKind.IsLabel label name ∧
      group.annotations pattern =
        [Analysis.annotationSpan group.span.start label.byteLength] ∧
      group.span.start + 1 + label.byteLength < group.span.stop := by
  obtain ⟨body, start, has, spanEq, -, kindName⟩ :=
    Outline.exists_hasGroup_of_mem_definitions member
  obtain ⟨front, back, textEq, startEq⟩ := has.text_eq
  rw [nameEq] at kindName
  obtain ⟨annotationLength, kindEq⟩ := GroupKind.name?_eq_some_iff.mp kindName.symm
  obtain ⟨written, lengthEq⟩ := Outline.isLabel_label kindEq
  have bodyEq : body.text = body.label ++ body.text.drop annotationLength := by
    rw [Outline.label, kindEq]
    exact (List.take_append_drop _ _).symm
  have startSpan : group.span.start = front.byteLength := by
    rw [spanEq, startEq, Nat.zero_add]
  have split : pattern =
      front ++ '(' :: (body.label ++ (body.text.drop annotationLength ++ ')' :: back)) := by
    rw [derived.eq_text, textEq, Outline.content, ← List.append_assoc body.label, ← bodyEq]
    simp
  have captured : group.span.start ∈ pattern.captures := by
    rw [derived.captures_eq, ← Outline.map_start_definitions flat 0 0]
    exact List.mem_map_of_mem member
  obtain ⟨_, ⟨before, beforeSplit, beforeEq, outside⟩, -⟩ := Text.mem_captures_iff.mp captured
  obtain ⟨rfl, -⟩ := Text.append_inj_of_byteLength (beforeSplit.symm.trans split)
    (beforeEq.trans startSpan)
  refine ⟨body.label, _, ⟨before, split, beforeEq, outside⟩, written,
    GroupDefinition.annotations_eq_of_label split startSpan nameEq written, ?_⟩
  have bodyBytes := congrArg Text.byteLength bodyEq
  rw [Text.byteLength_append] at bodyBytes
  have widthEq : body.width = body.text.byteLength := rfl
  rw [spanEq]
  simp only
  omega

/-- An entry whose parenthesis has an annotation behind it is named by it. -/
theorem Derives.name_of_opensAt
    {pattern : Text} {outline : Outline} (derived : Derives pattern outline [])
    {group : GroupDefinition} (member : group ∈ outline.definitions 0 0)
    {label name after : Text} (opens : pattern.OpensAt group.span.start (label ++ after))
    (written : GroupKind.IsLabel label name) : group.name = some name := by
  obtain ⟨body, start, has, spanEq, -, kindName⟩ :=
    Outline.exists_hasGroup_of_mem_definitions member
  obtain ⟨front, back, textEq, startEq⟩ := has.text_eq
  obtain ⟨before, split, beforeEq, -⟩ := opens
  have same : front ++ (body.content ++ back) = before ++ '(' :: (label ++ after) := by
    rw [← split, derived.eq_text, textEq]
  rw [spanEq] at beforeEq
  have bodyEq := (Text.append_inj_of_byteLength same
    (by rw [beforeEq, startEq, Nat.zero_add])).2
  have content : body.content ++ back = '(' :: (body.text ++ ')' :: back) := by
    simp [Outline.content]
  have kind : body.kind = .named name label.length := by
    rw [← body.classify_group back, ← content, bodyEq]
    exact GroupKind.ofBody_of_isLabel written after
  rw [kindName, kind]
  rfl

/-- The annotations of an accepted pattern are exactly those behind its structural
opening parentheses, at any depth. -/
theorem Derives.mem_annotations_iff
    {pattern : Text} {outline : Outline} (derived : Derives pattern outline [])
    (flat : outline.isFlat = true) {span : Span} :
    span ∈ outline.analysis.table.annotations pattern ↔
      ∃ start label name after, pattern.OpensAt start (label ++ after) ∧
        GroupKind.IsLabel label name ∧
        span = Analysis.annotationSpan start label.byteLength := by
  rw [GroupTable.annotations, List.mem_flatMap]
  constructor
  · rintro ⟨group, member, spanMember⟩
    cases nameEq : group.name with
    | none =>
        rw [GroupDefinition.annotations_eq_nil nameEq] at spanMember
        cases spanMember
    | some name =>
        obtain ⟨label, after, opens, written, annotationsEq, -⟩ :=
          derived.exists_label_of_mem_definitions flat member nameEq
        rw [annotationsEq, List.mem_singleton] at spanMember
        exact ⟨group.span.start, label, name, after, opens, written, spanMember⟩
  · rintro ⟨start, label, name, after, opens, written, rfl⟩
    have kindEq := GroupKind.ofBody_of_isLabel written after
    have captured : start ∈ pattern.captures := by
      refine Text.mem_captures_iff.mpr ⟨_, opens, ?_⟩
      rw [GroupKind.classify, kindEq]
      rfl
    rw [derived.captures_eq, ← Outline.map_start_definitions flat 0 0, List.mem_map] at captured
    obtain ⟨group, member, rfl⟩ := captured
    have nameEq := derived.name_of_opensAt member opens written
    obtain ⟨found, rest, opensFound, foundWritten, annotationsEq, -⟩ :=
      derived.exists_label_of_mem_definitions flat member nameEq
    have same : found = label := GroupKind.eq_of_mem_spellings foundWritten.mem_spellings
      written.mem_spellings (opensFound.body_unique opens)
    refine ⟨group, member, ?_⟩
    rw [annotationsEq, same]
    exact List.mem_singleton_self _

/-- A byte of an accepted pattern is removed exactly when it belongs to an annotation
behind a structural opening parenthesis. -/
theorem Derives.covers_annotations_iff
    {pattern : Text} {outline : Outline} (derived : Derives pattern outline [])
    (flat : outline.isFlat = true) {offset : Nat} :
    Excision.covers (outline.analysis.table.annotations pattern) offset = true ↔
      pattern.IsAnnotated offset := by
  rw [Excision.covers_iff]
  constructor
  · rintro ⟨span, member, lower, upper⟩
    obtain ⟨start, label, name, after, opens, written, rfl⟩ :=
      (derived.mem_annotations_iff flat).mp member
    rw [Analysis.annotationSpan] at lower upper
    exact ⟨start, label, name, after, opens, written, lower, by simp only at upper; omega⟩
  · rintro ⟨start, label, name, after, opens, written, lower, upper⟩
    refine ⟨_, (derived.mem_annotations_iff flat).mpr
      ⟨start, label, name, after, opens, written, rfl⟩, lower, ?_⟩
    rw [Analysis.annotationSpan]
    simp only
    omega

/-! ## What is left -/

theorem Derives.bytes_simplified
    {pattern : Text} {outline : Outline} (derived : Derives pattern outline []) :
    outline.analysis.simplified.bytes =
      Excision.bytesOutside (outline.analysis.table.annotations pattern) 0 pattern.bytes := by
  obtain ⟨wholeEq, remainderEq, spansEq⟩ := derived.segments_spec
  have whole := derived.eq_text
  rw [← wholeEq] at whole
  have left : Excision.bytesOutside (outline.annotations 0) 0
      (Segment.whole outline.segments).bytes = (Segment.remainder outline.segments).bytes :=
    Segment.bytesOutside_whole outline.segments 0 fun position _ => by rw [spansEq]
  rw [derived.analysis_simplified, derived.annotations_table, ← remainderEq, ← left, ← whole]

theorem Derives.byteLength_simplified_add
    {pattern : Text} {outline : Outline} (derived : Derives pattern outline []) :
    outline.analysis.simplified.byteLength +
        ((outline.analysis.table.annotations pattern).map Span.width).sum =
      pattern.byteLength := by
  obtain ⟨wholeEq, remainderEq, spansEq⟩ := derived.segments_spec
  have lengths := Segment.byteLength_remainder_add 0 outline.segments
  rwa [spansEq, remainderEq, wholeEq, ← derived.eq_text, ← derived.analysis_simplified,
    ← derived.annotations_table] at lengths

theorem Derives.reinsert_annotations
    {pattern : Text} {outline : Outline} (derived : Derives pattern outline []) :
    Excision.reinsert (outline.analysis.table.annotations pattern) pattern.bytes
      outline.analysis.simplified.bytes = pattern.bytes := by
  obtain ⟨wholeEq, remainderEq, spansEq⟩ := derived.segments_spec
  have whole := derived.eq_text
  rw [← wholeEq] at whole
  have removedEq (position : Nat) : Excision.removedBelow (outline.annotations 0) position =
      0 + Excision.removedBelow (Segment.removedSpans 0 outline.segments) position := by
    rw [spansEq, Nat.zero_add]
  have restored := Segment.reinsert_removedSpans outline.segments [] [] 0 0
    (congrArg Text.bytes whole) rfl rfl fun position _ => removedEq position
  rw [spansEq, List.nil_append, List.nil_append, ← whole] at restored
  rw [Excision.reinsert, derived.annotations_table, derived.analysis_simplified, ← remainderEq]
  exact restored

/-- What stands unannotated in the pattern is left as it is, at the shifted
offset. -/
theorem Derives.exists_bytes_simplified_eq
    {pattern : Text} {outline : Outline} (derived : Derives pattern outline [])
    (flat : outline.isFlat = true) {before middle after : Text}
    (split : pattern = before ++ (middle ++ after))
    (clear : ∀ offset, before.byteLength ≤ offset →
      offset < before.byteLength + middle.byteLength → ¬ pattern.IsAnnotated offset) :
    ∃ front back, outline.analysis.simplified.bytes = front ++ (middle.bytes ++ back) ∧
      front.length =
        Excision.shift (outline.analysis.table.annotations pattern) before.byteLength := by
  have kept : Excision.bytesOutside (outline.analysis.table.annotations pattern)
      before.byteLength middle.bytes = middle.bytes := by
    apply Excision.bytesOutside_eq_self
    intro position lower upper
    rw [Text.length_bytes] at upper
    rw [Bool.eq_false_iff, ne_eq, derived.covers_annotations_iff flat]
    exact clear position lower upper
  have bytesEq : pattern.bytes = before.bytes ++ (middle.bytes ++ after.bytes) := by
    rw [split, Text.bytes_append, Text.bytes_append]
  refine ⟨Excision.bytesOutside (outline.analysis.table.annotations pattern) 0 before.bytes,
    Excision.bytesOutside (outline.analysis.table.annotations pattern)
      (before.byteLength + middle.byteLength) after.bytes, ?_, ?_⟩
  · rw [derived.bytes_simplified, bytesEq, Excision.bytesOutside_append,
      Excision.bytesOutside_append, Text.length_bytes, Text.length_bytes, Nat.zero_add, kept]
  · rw [Excision.length_bytesOutside, Text.length_bytes]

/-- The simplified pattern is what is left of an accepted pattern when the bytes of
its annotations are removed. Every named entry has one annotation, which spells its
name right behind its parenthesis and ends before the group does; annotations are not
empty and stand one after the other. The bytes outside them, in order, are those of
the simplified pattern; so its length is less by theirs, and putting each one back
where its place has moved to gives the pattern again. A byte is removed exactly when
it belongs to an annotation behind a structural opening parenthesis, and what only
looks like one is left as it is. -/
theorem analyze_removes_annotations
    {pattern : Text} {analysis : Analysis} (analyzed : analyze pattern = .ok analysis) :
    let annotations := analysis.table.annotations pattern
    (∀ group ∈ analysis.table.groups,
      (group.name = none → group.annotations pattern = []) ∧
      ∀ name, group.name = some name → ∃ label,
        GroupKind.IsLabel label name ∧
        pattern.slice? (group.span.start + 1) (group.span.start + 1 + label.byteLength) =
          some label ∧
        group.annotations pattern =
          [⟨group.span.start + 1, group.span.start + 1 + label.byteLength⟩] ∧
        group.span.start + 1 + label.byteLength < group.span.stop) ∧
    (∀ span ∈ annotations, span.start < span.stop) ∧
    annotations.Pairwise (fun first second => first.stop ≤ second.start) ∧
    analysis.simplified.bytes = Excision.bytesOutside annotations 0 pattern.bytes ∧
    analysis.simplified.byteLength + (annotations.map Span.width).sum =
      pattern.byteLength ∧
    Excision.reinsert annotations pattern.bytes analysis.simplified.bytes =
      pattern.bytes ∧
    (∀ offset, Excision.covers annotations offset = true ↔ pattern.IsAnnotated offset) ∧
    ∀ before written after, pattern.IsLookAlike before written after →
      ∃ front back,
        analysis.simplified.bytes = front ++ (Text.bytes ('(' :: written) ++ back) ∧
        front.length = Excision.shift annotations before.byteLength := by
  obtain ⟨outline, derived, flat, rfl⟩ := analyze_eq_ok_iff.mp analyzed
  obtain ⟨-, -, spansEq⟩ := derived.segments_spec
  intro annotations
  have annotationsEq : annotations = Segment.removedSpans 0 outline.segments := by
    rw [spansEq]
    exact derived.annotations_table
  refine ⟨?_, ?_, ?_, derived.bytes_simplified, derived.byteLength_simplified_add,
    derived.reinsert_annotations, fun offset => derived.covers_annotations_iff flat, ?_⟩
  · intro group member
    refine ⟨fun unnamed => GroupDefinition.annotations_eq_nil unnamed pattern, ?_⟩
    intro name nameEq
    obtain ⟨label, after, ⟨before, split, beforeEq, -⟩, written, entry, inside⟩ :=
      derived.exists_label_of_mem_definitions flat member nameEq
    refine ⟨label, written, ?_, entry, inside⟩
    refine Text.slice?_eq_some_iff.mpr ⟨before ++ ['('], after, ?_, ?_, ?_⟩
    · rw [split]
      simp
    · rw [Text.byteLength_append, beforeEq]
      rfl
    · rw [Text.byteLength_append, beforeEq]
      rfl
  · intro span member
    obtain ⟨start, label, name, after, -, written, rfl⟩ :=
      (derived.mem_annotations_iff flat).mp member
    have nonempty := List.length_pos_iff.mpr written.ne_nil
    rw [Analysis.annotationSpan, written.byteLength_eq]
    simp only
    omega
  · rw [annotationsEq]
    exact Segment.removedSpans_pairwise 0 outline.segments
  · intro before written after look
    exact derived.exists_bytes_simplified_eq flat look.split
      fun offset lower upper => look.not_isAnnotated lower upper

/-- Both spellings are removed, also around a wide character; an escaped
parenthesis, one in a class, and a name with a digit keep what follows them. -/
theorem analyze_removes_both_spellings :
    let pattern : Text := "(?<a>x)\\(?<b>y\\)[(?<c>)](?P<d>é)(?<e1>z)".toList
    ∃ analysis, analyze pattern = .ok analysis ∧
      analysis.simplified = "(x)\\(?<b>y\\)[(?<c>)](é)(?<e1>z)".toList ∧
      analysis.table.annotations pattern = [⟨1, 5⟩, ⟨25, 30⟩] ∧
      Excision.reinsert (analysis.table.annotations pattern) pattern.bytes
        analysis.simplified.bytes = pattern.bytes := by
  obtain ⟨-, -, -, -, -, restored, -⟩ :=
    @analyze_removes_annotations "(?<a>x)\\(?<b>y\\)[(?<c>)](?P<d>é)(?<e1>z)".toList _ rfl
  exact ⟨_, rfl, by decide +kernel, by decide +kernel, restored⟩

end NamedCapture
