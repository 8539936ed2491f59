import NamedCapture.Proofs.Alignment
import NamedCapture.Proofs.Annotations
import NamedCapture.Proofs.InlineFlags

/-!
Contract: a pattern whose name annotations are replaced by others, of any names and
lengths.

Owns:
- the replacement of byte spans by texts;
- the outline of the changed pattern, which has the same simplified outline;
- the places of its groups, which move with the annotations before them.

Does not own: what an engine makes of either pattern.
-/

namespace NamedCapture

/-! ## Replaced spans -/

/-- Put a text in place of each span, in the part of a text that starts at a
cursor. -/
def Text.replaceFrom (text : Text) (cursor : Nat) : List (Span × Text) → Text
  | [] => (text.dropBytes? cursor).getD []
  | (span, replacement) :: later =>
      (text.slice? cursor span.start).getD [] ++
        (replacement ++ text.replaceFrom span.stop later)

/-- The pattern with one new annotation in place of each old one, in order. -/
def Text.relabel (pattern : Text) (annotations : List Span) (labels : List Text) : Text :=
  pattern.replaceFrom 0 (annotations.zip labels)

namespace Segment

/-- The text with other texts in place of its removed segments, as long as there are
some. -/
def replaced : List Segment → List Text → Text
  | [], _ => []
  | .kept text :: segments, labels => text ++ replaced segments labels
  | .removed _ :: segments, label :: labels => label ++ replaced segments labels
  | .removed text :: segments, [] => text ++ replaced segments []

theorem replaced_nil (segments : List Segment) : replaced segments [] = whole segments := by
  induction segments with
  | nil => rfl
  | cons segment segments inductionHypothesis =>
      have wholeEq : whole (segment :: segments) = segment.text ++ whole segments := rfl
      cases segment <;> rw [replaced, inductionHypothesis, wholeEq, text]

/-- Replacing the spans of the removed segments replaces those segments. -/
theorem replaceFrom_removedSpans
    (segments : List Segment) (labels : List Text) (before kept : Text)
    {whole : Text} {cursor offset : Nat}
    (wholeEq : whole = before ++ (kept ++ Segment.whole segments))
    (cursorEq : cursor = before.byteLength)
    (offsetEq : offset = before.byteLength + kept.byteLength) :
    whole.replaceFrom cursor ((removedSpans offset segments).zip labels) =
      kept ++ replaced segments labels := by
  induction segments generalizing labels before kept cursor offset with
  | nil =>
      have unchanged : whole.dropBytes? cursor = some (kept ++ Segment.whole []) := by
        rw [wholeEq, cursorEq, Text.dropBytes?_append]
      rw [removedSpans, List.zip_nil_left, Text.replaceFrom, unchanged]
      rfl
  | cons segment segments inductionHypothesis =>
      cases segment with
      | kept text =>
          have textFirst : Segment.whole (.kept text :: segments) =
              text ++ Segment.whole segments := rfl
          rw [removedSpans, replaced, ← List.append_assoc]
          apply inductionHypothesis labels before (kept ++ text) _ cursorEq
          · rw [offsetEq, Text.byteLength_append, Nat.add_assoc]
          · rw [wholeEq, textFirst, List.append_assoc]
      | removed text =>
          have textFirst : Segment.whole (.removed text :: segments) =
              text ++ Segment.whole segments := rfl
          rw [textFirst] at wholeEq
          cases labels with
          | nil =>
              have unchanged : whole.dropBytes? cursor =
                  some (kept ++ (text ++ Segment.whole segments)) := by
                rw [wholeEq, cursorEq, Text.dropBytes?_append]
              rw [List.zip_nil_right, Text.replaceFrom, unchanged, replaced, replaced_nil]
              rfl
          | cons label labels =>
              have slice : whole.slice? cursor offset = some kept := by
                rw [wholeEq]
                exact Text.slice?_append before kept _ cursorEq offsetEq
              have passed : offset + text.byteLength =
                  Text.byteLength (before ++ (kept ++ text)) := by
                rw [offsetEq, Text.byteLength_append, Text.byteLength_append, Nat.add_assoc]
              have later := inductionHypothesis labels (before ++ (kept ++ text)) []
                (by rw [wholeEq]; simp) passed passed
              rw [removedSpans, List.zip_cons_cons, Text.replaceFrom]
              simp only [slice, Option.getD_some, later, replaced, List.nil_append]

end Segment

/-! ## Relabeled outlines -/

namespace Outline

/-- The outline with a text before it, each character of which is an item. -/
def behind (outline : Outline) (label : Text) : Outline :=
  label.foldr (fun character rest => .plain [character] rest) outline

/-- The outline with other annotations in its outermost named groups, as long as
there are some. -/
def relabel : Outline → List Text → Outline
  | .done, _ => .done
  | .plain item rest, labels => .plain item (rest.relabel labels)
  | .group body rest, labels =>
      if body.kind.name?.isSome then
        .group ((labels.head?.map body.unnamed.behind).getD body) (rest.relabel labels.tail)
      else
        .group body (rest.relabel labels)

theorem text_behind (label : Text) (outline : Outline) :
    (outline.behind label).text = label ++ outline.text := by
  induction label with
  | nil => rfl
  | cons character label inductionHypothesis =>
      have first : outline.behind (character :: label) =
          .plain [character] (outline.behind label) := rfl
      rw [first, text, inductionHypothesis]
      rfl

theorem dropItems_behind (label : Text) (outline : Outline) :
    (outline.behind label).dropItems label.length = outline := by
  induction label with
  | nil => cases outline <;> rfl
  | cons character label inductionHypothesis => exact inductionHypothesis

/-- A body behind an annotation is named by it. -/
theorem kind_behind {label name : Text} (written : GroupKind.IsLabel label name)
    (body : Outline) : (body.behind label).kind = .named name label.length := by
  unfold kind content
  rw [text_behind, GroupKind.classify, List.append_assoc]
  exact GroupKind.ofBody_of_isLabel written _

theorem unnamed_behind {label name : Text} (written : GroupKind.IsLabel label name)
    (body : Outline) : (body.behind label).unnamed = body := by
  unfold unnamed
  rw [kind_behind written, GroupKind.annotationLength, dropItems_behind]

/-- A group without a name is left as it is. -/
theorem relabel_group_of_unnamed
    {body : Outline} (unnamed : body.kind.name? = none) (rest : Outline) (labels : List Text) :
    (Outline.group body rest).relabel labels = .group body (rest.relabel labels) := by
  simp [relabel, unnamed]

theorem relabel_group_of_named
    {body : Outline} {name : Text} (named : body.kind.name? = some name)
    (rest : Outline) (label : Text) (labels : List Text) :
    (Outline.group body rest).relabel (label :: labels) =
      .group (body.unnamed.behind label) (rest.relabel labels) := by
  simp [relabel, named]

theorem relabel_nil (outline : Outline) : outline.relabel [] = outline := by
  induction outline with
  | done => rfl
  | plain item rest inductionHypothesis => rw [relabel, inductionHypothesis]
  | group body rest _ restHypothesis => simp [relabel, restHypothesis]

/-- The annotations decide nothing about what is left without them. -/
theorem simplified_relabel
    (outline : Outline) {labels names : List Text}
    (written : List.Forall₂ GroupKind.IsLabel labels names) :
    (outline.relabel labels).simplified = outline.simplified := by
  induction outline generalizing labels names with
  | done => rfl
  | plain item rest inductionHypothesis =>
      rw [relabel, simplified, simplified, inductionHypothesis written]
  | group body rest _ restHypothesis =>
      by_cases unnamed : body.kind.name? = none
      · rw [relabel_group_of_unnamed unnamed, simplified, simplified, restHypothesis written]
      · obtain ⟨name, nameEq⟩ := Option.ne_none_iff_exists'.mp unnamed
        cases written with
        | nil => rw [relabel_nil]
        | cons first later =>
            rw [relabel_group_of_named nameEq, simplified, simplified, unnamed_behind first,
              restHypothesis later]

theorem isFlat_relabel
    (outline : Outline) {labels names : List Text}
    (written : List.Forall₂ GroupKind.IsLabel labels names) :
    (outline.relabel labels).isFlat = outline.isFlat := by
  rw [← isFlat_simplified, outline.simplified_relabel written, isFlat_simplified]

end Outline

/-! ## Relabeled derivations -/

theorem Derives.behind
    {label text rest : Text} {outline : Outline} (derived : Derives text outline rest)
    (notEscape : '\\' ∉ label) (notBracket : '[' ∉ label)
    (notOpen : '(' ∉ label) (notClose : ')' ∉ label) :
    Derives (label ++ text) (outline.behind label) rest := by
  induction label with
  | nil => exact derived
  | cons character label inductionHypothesis =>
      rw [List.mem_cons, not_or] at notEscape notBracket notOpen notClose
      have later := inductionHypothesis notEscape.2 notBracket.2 notOpen.2 notClose.2
      exact .plain rfl (.character _ (Ne.symm notEscape.1) (Ne.symm notBracket.1)
        (Ne.symm notOpen.1) (Ne.symm notClose.1)) later

/-- The body of a group with another annotation is derived. -/
theorem Derives.relabel_body
    {text after label name : Text} {body : Outline} (derived : Derives text body (')' :: after))
    (written : GroupKind.IsLabel label name) (other : Text) :
    Derives ((body.unnamed.behind label).text ++ ')' :: other) (body.unnamed.behind label)
      (')' :: other) := by
  obtain ⟨-, -, -, -, unnamed⟩ := derived.exists_label
  have moved := unnamed.read_local (List.cons_ne_nil _ _) (')' :: other)
  rw [Outline.text_behind, List.append_assoc]
  exact moved.behind (written.not_mem rfl (by decide)) (written.not_mem rfl (by decide))
    (written.not_mem rfl (by decide)) (written.not_mem rfl (by decide))

/-- The changed pattern is derived, with the relabeled outline. -/
theorem Derives.relabel
    {text rest : Text} {outline : Outline} (derived : Derives text outline rest)
    {labels names : List Text} (written : List.Forall₂ GroupKind.IsLabel labels names) :
    Derives ((outline.relabel labels).text ++ rest) (outline.relabel labels) rest := by
  induction derived generalizing labels names with
  | done text => exact .done text
  | @plain text item middle rest outline split read later inductionHypothesis =>
      rw [Outline.relabel, Outline.text, List.append_assoc]
      refine .plain rfl (read.read_before split fun ended => ?_) (inductionHypothesis written)
      rw [ended] at later
      obtain ⟨rfl, rfl⟩ := later.eq_done_of_nil
      rfl
  | @group text middle rest body outline inner _ _ restHypothesis =>
      by_cases unnamed : body.kind.name? = none
      · rw [Outline.relabel_group_of_unnamed unnamed, Outline.text, List.cons_append,
          List.append_assoc, List.cons_append]
        exact .group (inner.read_local (List.cons_ne_nil _ _) _) (restHypothesis written)
      · obtain ⟨name, nameEq⟩ := Option.ne_none_iff_exists'.mp unnamed
        cases written with
        | nil =>
            have later := restHypothesis .nil
            rw [Outline.relabel_nil] at later ⊢
            rw [Outline.text, List.cons_append, List.append_assoc, List.cons_append]
            exact .group (inner.read_local (List.cons_ne_nil _ _) _) later
        | cons first later =>
            rw [Outline.relabel_group_of_named nameEq, Outline.text, List.cons_append,
              List.append_assoc, List.cons_append]
            exact .group (inner.relabel_body first _) (restHypothesis later)

/-- The text of the relabeled outline has the labels in place of the annotations. -/
theorem Derives.replaced_segments
    {text rest : Text} {outline : Outline} (derived : Derives text outline rest)
    (labels : List Text) :
    Segment.replaced outline.segments labels = (outline.relabel labels).text := by
  induction derived generalizing labels with
  | done text => rfl
  | plain _ _ _ inductionHypothesis =>
      rw [Outline.segments, Segment.replaced, Outline.relabel, Outline.text, inductionHypothesis]
  | @group text middle rest body outline inner later _ restHypothesis =>
      by_cases unnamed : body.kind.name? = none
      · have segmentsEq : (Outline.group body outline).segments =
            .kept body.content :: outline.segments := by
          rw [Outline.segments]
          cases kindEq : body.kind with
          | named name annotationLength => simp [kindEq, GroupKind.name?] at unnamed
          | _ => rfl
        rw [segmentsEq, Segment.replaced, restHypothesis,
          Outline.relabel_group_of_unnamed unnamed, Outline.content, Outline.text]
        simp
      · obtain ⟨name, nameEq⟩ := Option.ne_none_iff_exists'.mp unnamed
        obtain ⟨annotationLength, kindEq⟩ := GroupKind.name?_eq_some_iff.mp nameEq
        have segmentsEq : (Outline.group body outline).segments =
            .kept ['('] :: .removed body.label :: .kept (body.unnamed.text ++ [')']) ::
              outline.segments := by
          rw [Outline.segments, kindEq]
        cases labels with
        | nil =>
            have whole := (inner.segments_group outline).1
            have laterWhole := later.segments_spec.1
            rw [Segment.replaced_nil, Outline.relabel_nil, whole, laterWhole, Outline.content,
              Outline.text]
            simp
        | cons label labels =>
            rw [segmentsEq, Outline.relabel_group_of_named nameEq]
            simp only [Segment.replaced, restHypothesis, Outline.text, Outline.text_behind]
            simp

/-- Replacing the annotations of a derived pattern relabels its outline. -/
theorem Derives.relabel_eq_text
    {pattern : Text} {outline : Outline} (derived : Derives pattern outline [])
    (labels : List Text) :
    pattern.relabel (outline.analysis.table.annotations pattern) labels =
      (outline.relabel labels).text := by
  obtain ⟨wholeEq, -, spansEq⟩ := derived.segments_spec
  have whole : pattern = [] ++ ([] ++ Segment.whole outline.segments) := by
    rw [wholeEq]
    exact derived.eq_text
  rw [derived.annotations_table, ← spansEq, ← derived.replaced_segments labels, Text.relabel]
  exact Segment.replaceFrom_removedSpans outline.segments labels [] [] whole rfl rfl

/-! ## Relabeled tables -/

/-- The number of bytes of a group's annotation. -/
def GroupDefinition.annotationLength (group : GroupDefinition) : Nat :=
  (GroupKind.classify group.content).annotationLength

/-- An entry and the entry in its place when annotations are replaced. So many bytes
of annotations stand before the one and before the other: each end of the group lies
as far behind them as before. -/
structure GroupDefinition.RenamedTo
    (removed otherRemoved : Nat) (group other : GroupDefinition) : Prop where
  index : other.index = group.index
  isNamed : other.isNamed = group.isNamed
  content : other.strippedContent = group.strippedContent
  start : other.span.start + removed = group.span.start + otherRemoved
  stop : other.span.stop + (removed + group.annotationLength) =
    group.span.stop + (otherRemoved + other.annotationLength)

/-- Entries in order, each with the entry in its place. -/
inductive RenamedInOrder : Nat → Nat → List GroupDefinition → List GroupDefinition → Prop where
  | nil (removed otherRemoved : Nat) : RenamedInOrder removed otherRemoved [] []
  | cons {removed otherRemoved : Nat} {group other : GroupDefinition}
      {groups others : List GroupDefinition}
      (first : group.RenamedTo removed otherRemoved other)
      (later : RenamedInOrder (removed + group.annotationLength)
        (otherRemoved + other.annotationLength) groups others) :
      RenamedInOrder removed otherRemoved (group :: groups) (other :: others)

namespace RenamedInOrder

variable {removed otherRemoved : Nat} {groups others : List GroupDefinition}

theorem length_eq (renamed : RenamedInOrder removed otherRemoved groups others) :
    others.length = groups.length := by
  induction renamed with
  | nil => rfl
  | cons _ _ inductionHypothesis => rw [List.length_cons, List.length_cons, inductionHypothesis]

theorem map_isNamed (renamed : RenamedInOrder removed otherRemoved groups others) :
    others.map GroupDefinition.isNamed = groups.map GroupDefinition.isNamed := by
  induction renamed with
  | nil => rfl
  | cons first _ inductionHypothesis =>
      rw [List.map_cons, List.map_cons, inductionHypothesis, first.isNamed]

/-- The entries at one position, with the annotations of the entries before them. -/
theorem getElem? (renamed : RenamedInOrder removed otherRemoved groups others)
    {position : Nat} {group other : GroupDefinition}
    (groupEq : groups[position]? = some group) (otherEq : others[position]? = some other) :
    group.RenamedTo (removed + GroupTable.removedBefore ⟨groups⟩ position)
      (otherRemoved + GroupTable.removedBefore ⟨others⟩ position) other := by
  induction renamed generalizing position with
  | nil => simp at groupEq
  | @cons removed otherRemoved first firstOther groups others renamedTo _ inductionHypothesis =>
      cases position with
      | zero =>
          simp only [List.getElem?_cons_zero, Option.some.injEq] at groupEq otherEq
          rw [← groupEq, ← otherEq]
          exact renamedTo
      | succ position =>
          have later := inductionHypothesis groupEq otherEq
          have widened (entry : GroupDefinition) (entries : List GroupDefinition) :
              GroupTable.removedBefore ⟨entry :: entries⟩ (position + 1) =
                entry.annotationLength + GroupTable.removedBefore ⟨entries⟩ position := rfl
          rw [widened, widened, ← Nat.add_assoc, ← Nat.add_assoc]
          exact later

end RenamedInOrder

/-- One step: two groups that differ in their annotations, each before entries that
take each other's places. -/
theorem renamedInOrder_group
    {text otherText after otherAfter : Text} {body otherBody rest otherRest : Outline}
    (inner : Derives text body (')' :: after))
    (otherInner : Derives otherText otherBody (')' :: otherAfter))
    (unnamedEq : otherBody.unnamed = body.unnamed)
    (isNamed : otherBody.kind.name?.isSome = body.kind.name?.isSome)
    (isCapturing : otherBody.kind.isCapturing = body.kind.isCapturing)
    {offset otherOffset removed otherRemoved : Nat} (index : Nat)
    (offsetEq : otherOffset + removed = offset + otherRemoved)
    (later : ∀ offset otherOffset removed otherRemoved index,
      otherOffset + removed = offset + otherRemoved →
      RenamedInOrder removed otherRemoved (rest.definitions offset index)
        (otherRest.definitions otherOffset index)) :
    RenamedInOrder removed otherRemoved ((Outline.group body rest).definitions offset index)
      ((Outline.group otherBody otherRest).definitions otherOffset index) := by
  have widthEq := inner.width_eq
  have otherWidthEq := otherInner.width_eq
  rw [unnamedEq] at otherWidthEq
  unfold Outline.definitions
  rw [isCapturing]
  by_cases capturing : body.kind.isCapturing = true
  · have lengthEq (outline : Outline) (group : GroupDefinition)
        (contentEq : group.content = outline.content) :
        group.annotationLength = outline.kind.annotationLength := by
      rw [GroupDefinition.annotationLength, contentEq]
      rfl
    rw [if_pos capturing, if_pos capturing]
    refine .cons ⟨rfl, isNamed, ?_, offsetEq, ?_⟩ (later _ _ _ _ _ ?_)
    · rw [otherInner.strippedContent_eq rfl, inner.strippedContent_eq rfl, unnamedEq]
    · rw [lengthEq body _ rfl, lengthEq otherBody _ rfl]
      simp only
      omega
    · rw [lengthEq body _ rfl, lengthEq otherBody _ rfl]
      omega
  · have bodyEq := Outline.unnamed_of_not_capturing (Bool.eq_false_of_not_eq_true capturing)
    rw [← isCapturing] at capturing
    have otherEq := Outline.unnamed_of_not_capturing (Bool.eq_false_of_not_eq_true capturing)
    rw [← isCapturing, if_neg capturing, if_neg capturing, ← otherEq, unnamedEq, bodyEq]
    apply later
    omega

/-- The entries of a relabeled outline that starts elsewhere take the places of those
of the outline. -/
theorem Derives.renamedInOrder
    {text rest : Text} {outline : Outline} (derived : Derives text outline rest)
    {labels names : List Text} (written : List.Forall₂ GroupKind.IsLabel labels names)
    (offset otherOffset removed otherRemoved index : Nat)
    (offsetEq : otherOffset + removed = offset + otherRemoved) :
    RenamedInOrder removed otherRemoved (outline.definitions offset index)
      ((outline.relabel labels).definitions otherOffset index) := by
  induction derived generalizing labels names offset otherOffset removed otherRemoved index with
  | done text => exact .nil removed otherRemoved
  | plain _ _ _ inductionHypothesis =>
      rw [Outline.relabel, Outline.definitions, Outline.definitions]
      apply inductionHypothesis written
      omega
  | @group text middle rest body outline inner _ _ restHypothesis =>
      by_cases unnamed : body.kind.name? = none
      · rw [Outline.relabel_group_of_unnamed unnamed]
        apply renamedInOrder_group inner inner rfl rfl rfl index offsetEq
        exact restHypothesis written
      · obtain ⟨name, nameEq⟩ := Option.ne_none_iff_exists'.mp unnamed
        cases written with
        | nil =>
            have later := restHypothesis .nil
            rw [Outline.relabel_nil] at later ⊢
            exact renamedInOrder_group inner inner rfl rfl rfl index offsetEq later
        | cons first later =>
            obtain ⟨annotationLength, kindEq⟩ := GroupKind.name?_eq_some_iff.mp nameEq
            have otherKind := Outline.kind_behind first body.unnamed
            rw [Outline.relabel_group_of_named nameEq]
            apply renamedInOrder_group inner (inner.relabel_body first middle)
              (Outline.unnamed_behind first _) _ _ index offsetEq
            · exact restHypothesis later
            · rw [otherKind, kindEq]
              rfl
            · rw [otherKind, kindEq]
              rfl

namespace Outline

/-- The names of the outermost groups, in order. -/
def names : Outline → List Text
  | .done => []
  | .plain _ rest => rest.names
  | .group body rest => body.kind.name?.toList ++ rest.names

theorem filterMap_name_definitions (outline : Outline) (offset index : Nat) :
    (outline.definitions offset index).filterMap GroupDefinition.name = outline.names := by
  induction outline generalizing offset index with
  | done => rfl
  | plain item rest inductionHypothesis => exact inductionHypothesis _ index
  | group body rest _ restHypothesis =>
      unfold definitions names
      cases kindEq : body.kind <;>
        simp [GroupKind.isCapturing, GroupKind.name?, restHypothesis]

/-- The names of a relabeled outline are those of its labels, when there are as many
as there were names. -/
theorem names_relabel
    (outline : Outline) {labels names : List Text}
    (written : List.Forall₂ GroupKind.IsLabel labels names)
    (count : names.length = outline.names.length) :
    (outline.relabel labels).names = names := by
  induction outline generalizing labels names with
  | done => exact (List.length_eq_zero_iff.mp count).symm
  | plain item rest inductionHypothesis => exact inductionHypothesis written count
  | group body rest _ restHypothesis =>
      rw [Outline.names] at count
      by_cases unnamed : body.kind.name? = none
      · rw [unnamed, Option.toList_none, List.nil_append] at count
        rw [relabel_group_of_unnamed unnamed, Outline.names, unnamed, Option.toList_none,
          List.nil_append, restHypothesis written count]
      · obtain ⟨name, nameEq⟩ := Option.ne_none_iff_exists'.mp unnamed
        rw [nameEq, Option.toList_some, List.singleton_append, List.length_cons] at count
        cases written with
        | nil => cases count
        | cons first later =>
            rw [relabel_group_of_named nameEq, Outline.names, kind_behind first,
              GroupKind.name?, Option.toList_some, List.singleton_append,
              restHypothesis later (Nat.succ.inj count)]

end Outline

/-! ## Relabeled patterns -/

/-- A pattern whose annotations are replaced, one by one, is accepted as well. What is
left without annotations is the same text, the names are the new ones, and every
entry takes the place of the one before it. -/
theorem exists_analyze_relabel
    {pattern : Text} {analysis : Analysis} (analyzed : analyze pattern = .ok analysis)
    {labels names : List Text} (written : List.Forall₂ GroupKind.IsLabel labels names)
    (count : names.length = analysis.table.names.length) :
    ∃ renamed,
      analyze (pattern.relabel (analysis.table.annotations pattern) labels) = .ok renamed ∧
      renamed.simplified = analysis.simplified ∧
      renamed.table.names = names ∧
      RenamedInOrder 0 0 analysis.table.groups renamed.table.groups := by
  obtain ⟨outline, derived, flat, rfl⟩ := analyze_eq_ok_iff.mp analyzed
  have relabeled := derived.relabel written
  rw [List.append_nil] at relabeled
  refine ⟨(outline.relabel labels).analysis, ?_, ?_, ?_, ?_⟩
  · rw [derived.relabel_eq_text, relabeled.analyze_eq_ok_iff, outline.isFlat_relabel written]
    exact ⟨flat, rfl⟩
  · rw [relabeled.analysis_simplified, outline.simplified_relabel written,
      derived.analysis_simplified]
  · rw [GroupTable.names, Outline.analysis, Outline.filterMap_name_definitions]
    apply outline.names_relabel written
    rw [count, GroupTable.names, Outline.analysis, Outline.filterMap_name_definitions]
  · exact derived.renamedInOrder written 0 0 0 0 0 rfl

end NamedCapture
