import NamedCapture.Proofs.Locality
import NamedCapture.Proofs.Tabulation

/-!
Contract: what is left of a pattern when its name annotations are cut out, and
what a second analysis makes of it.

Cutting a name out joins the opening parenthesis with the start of the group's
body, which may then be read as another kind of group.

Owns:
- the outline of the simplified pattern;
- the exact condition under which analysis is idempotent.

Does not own: what an engine makes of the simplified pattern.
-/

namespace NamedCapture

namespace Outline

/-! ## Outlines without annotations -/

/-- The outline without its first items. -/
def dropItems : Nat → Outline → Outline
  | count + 1, .plain _ rest => rest.dropItems count
  | _, outline => outline

/-- The body of a group without its annotation, each character of which is an
item. -/
def unnamed (body : Outline) : Outline :=
  body.dropItems body.kind.annotationLength

/-- The outline with the annotations of all outermost groups cut out. -/
def simplified : Outline → Outline
  | .done => .done
  | .plain item rest => .plain item rest.simplified
  | .group body rest => .group body.unnamed rest.simplified

theorem hasCapture_dropItems (count : Nat) (outline : Outline) :
    (outline.dropItems count).hasCapture = outline.hasCapture := by
  induction outline generalizing count with
  | done => cases count <;> rfl
  | group body rest _ _ => cases count <;> rfl
  | plain item rest inductionHypothesis =>
      cases count with
      | zero => rfl
      | succ count => exact inductionHypothesis count

theorem isFlat_simplified (outline : Outline) :
    outline.simplified.isFlat = outline.isFlat := by
  induction outline with
  | done => rfl
  | plain item rest inductionHypothesis => exact inductionHypothesis
  | group body rest _ restHypothesis =>
      rw [simplified, isFlat, isFlat, restHypothesis, unnamed, hasCapture_dropItems]

end Outline

theorem Derives.exists_plain_of_cons
    {character : Char} {text rest after : Text} {outline : Outline}
    (derived : Derives (character :: text) outline rest) (restEq : rest = ')' :: after)
    (notEscape : character ≠ '\\') (notBracket : character ≠ '[')
    (notOpen : character ≠ '(') (notClose : character ≠ ')') :
    ∃ later, outline = .plain [character] later ∧ Derives text later rest := by
  cases derived with
  | done => exact absurd (List.cons.inj restEq).1 notClose
  | group => exact absurd rfl notOpen
  | @plain _ item middle _ outline split read later =>
      cases read with
      | escape => exact absurd rfl notEscape
      | loneBackslash => exact absurd rfl notEscape
      | bracket => exact absurd rfl notBracket
      | character =>
          have itemEq : [character] = item :=
            List.append_cancel_right (show [character] ++ text = item ++ text from split)
          exact ⟨outline, by rw [itemEq], later⟩

/-- A text without special characters at the start of an outline is dropped with
as many items. -/
theorem Derives.dropItems
    {leading text rest after : Text} {outline : Outline}
    (derived : Derives (leading ++ text) outline rest) (restEq : rest = ')' :: after)
    (notEscape : '\\' ∉ leading) (notBracket : '[' ∉ leading)
    (notOpen : '(' ∉ leading) (notClose : ')' ∉ leading) :
    outline.text = leading ++ (outline.dropItems leading.length).text ∧
      Derives text (outline.dropItems leading.length) rest := by
  induction leading generalizing outline with
  | nil => cases outline <;> exact ⟨rfl, derived⟩
  | cons character leading inductionHypothesis =>
      rw [List.mem_cons, not_or] at notEscape notBracket notOpen notClose
      obtain ⟨later, rfl, laterDerived⟩ := derived.exists_plain_of_cons restEq
        (Ne.symm notEscape.1) (Ne.symm notBracket.1) (Ne.symm notOpen.1) (Ne.symm notClose.1)
      obtain ⟨textEq, dropped⟩ := inductionHypothesis laterDerived
        notEscape.2 notBracket.2 notOpen.2 notClose.2
      refine ⟨?_, dropped⟩
      rw [Outline.text, textEq]
      rfl

/-- The body of a group is its annotation, one byte for each item, and the rest
of the body. -/
theorem Derives.exists_label
    {text after : Text} {body : Outline} (derived : Derives text body (')' :: after)) :
    ∃ label, body.text = label ++ body.unnamed.text ∧
      label.length = body.kind.annotationLength ∧
      label.byteLength = body.kind.annotationLength ∧
      Derives (body.unnamed.text ++ ')' :: after) body.unnamed (')' :: after) := by
  have textEq := derived.text_eq
  cases kindEq : body.kind with
  | named name annotationLength =>
      have named : GroupKind.ofBody text = .named name annotationLength := by
        rw [textEq, ← kindEq]
        exact body.classify_group after
      obtain ⟨label, remaining, split, written, lengthEq⟩ :=
        GroupKind.exists_label_of_named named
      rw [split] at derived
      obtain ⟨bodyEq, dropped⟩ := derived.dropItems rfl
        (written.not_mem rfl (by decide)) (written.not_mem rfl (by decide))
        (written.not_mem rfl (by decide)) (written.not_mem rfl (by decide))
      have unnamedEq : body.unnamed = body.dropItems label.length := by
        rw [Outline.unnamed, kindEq, lengthEq]
        rfl
      rw [← unnamedEq] at bodyEq dropped
      rw [dropped.text_eq] at dropped
      exact ⟨label, bodyEq, lengthEq.symm,
        (Text.byteLength_eq_length fun _ member => written.utf8Size member).trans lengthEq.symm,
        dropped⟩
  | _ =>
      have unnamedEq : body.unnamed = body := by
        rw [Outline.unnamed, kindEq]
        cases body <;> rfl
      rw [unnamedEq, ← textEq]
      exact ⟨[], rfl, rfl, rfl, derived⟩

/-- The bytes of a body are those of its annotation and those that are left. -/
theorem Derives.width_eq
    {text after : Text} {body : Outline} (derived : Derives text body (')' :: after)) :
    body.width = body.kind.annotationLength + body.unnamed.width := by
  obtain ⟨label, bodyEq, -, bytesEq, -⟩ := derived.exists_label
  rw [Outline.width, bodyEq, Text.byteLength_append, bytesEq, Outline.width]

/-- The simplified pattern is derived, with the simplified outline. -/
theorem Derives.simplified
    {text rest : Text} {outline : Outline} (derived : Derives text outline rest) :
    Derives (outline.simplified.text ++ rest) outline.simplified rest := by
  induction derived with
  | done text => exact .done text
  | @plain text item middle rest outline split read later inductionHypothesis =>
      rw [Outline.simplified, Outline.text, List.append_assoc]
      refine .plain rfl (read.read_before split fun ended => ?_) inductionHypothesis
      rw [ended] at later
      obtain ⟨rfl, rfl⟩ := later.eq_done_of_nil
      rfl
  | @group text middle rest body outline inner _ _ restHypothesis =>
      obtain ⟨-, -, -, -, unnamed⟩ := inner.exists_label
      rw [Outline.simplified, Outline.text, List.cons_append, List.append_assoc,
        List.cons_append]
      exact .group (unnamed.read_local (List.cons_ne_nil _ _) _) restHypothesis

/-- Cutting a span out of the part of a text after a cursor keeps what is before
the span and moves the cursor behind it. -/
theorem Text.exciseFrom_cons
    (before kept removed after : Text) (spans : List Span)
    {whole : Text} {cursor : Nat} (start stop : Nat)
    (wholeEq : whole = before ++ (kept ++ (removed ++ after)))
    (cursorEq : cursor = before.byteLength)
    (startEq : start = before.byteLength + kept.byteLength)
    (stopEq : stop = start + removed.byteLength) :
    whole.exciseFrom cursor (⟨start, stop⟩ :: spans) =
      kept ++ whole.exciseFrom stop spans := by
  have slice : whole.slice? cursor start = some kept := by
    rw [wholeEq]
    exact Text.slice?_append before kept (removed ++ after) cursorEq startEq
  have behind : max cursor stop = stop := by omega
  rw [exciseFrom, slice, Option.getD_some, behind]

/-- Cutting the annotation out of one group, with some text before it still to be
kept: what is settled by then, what the cursor has passed, and what is still to be
kept. -/
theorem Derives.exciseFrom_group
    {text middle : Text} {body : Outline} (derived : Derives text body (')' :: middle))
    (before kept : Text) (cursor offset : Nat) (spans : List Span) {whole : Text}
    (wholeEq : whole = before ++ (kept ++ '(' :: text))
    (cursorEq : cursor = before.byteLength)
    (offsetEq : offset = before.byteLength + kept.byteLength) :
    ∃ settled passed pending : Text,
      whole.exciseFrom cursor (Outline.annotationOf offset body.kind ++ spans) =
        settled ++ whole.exciseFrom passed.byteLength spans ∧
      whole = passed ++ (pending ++ middle) ∧
      offset + body.width + 2 = passed.byteLength + pending.byteLength ∧
      settled ++ pending = kept ++ body.unnamed.content := by
  obtain ⟨label, bodyEq, lengthEq, bytesEq, -⟩ := derived.exists_label
  have opening : Text.byteLength ['('] = 1 := rfl
  have closing : Text.byteLength [')'] = 1 := rfl
  have bodyWidth := derived.width_eq
  have unnamedWidth : Text.byteLength body.unnamed.text = body.unnamed.width := rfl
  rw [derived.text_eq, bodyEq] at wholeEq
  cases kindEq : body.kind with
  | named name annotationLength =>
      rw [kindEq] at bytesEq bodyWidth
      have stopEq : offset + 1 + annotationLength = offset + 1 + label.byteLength := by
        rw [bytesEq]
        rfl
      have wholeSplit : whole = before ++
          ((kept ++ ['(']) ++ (label ++ (body.unnamed.text ++ ')' :: middle))) := by
        rw [wholeEq]
        simp
      have startEq : offset + 1 = before.byteLength + Text.byteLength (kept ++ ['(']) := by
        rw [Text.byteLength_append, opening, offsetEq, Nat.add_assoc]
      have passedEq : Text.byteLength (before ++ ((kept ++ ['(']) ++ label)) =
          offset + 1 + annotationLength := by
        rw [Text.byteLength_append, Text.byteLength_append, stopEq, startEq, Nat.add_assoc]
      refine ⟨kept ++ ['('], before ++ ((kept ++ ['(']) ++ label),
        body.unnamed.text ++ [')'], ?_, ?_, ?_, ?_⟩
      · rw [Outline.annotationOf, Analysis.annotationSpan, List.singleton_append, passedEq]
        exact Text.exciseFrom_cons before (kept ++ ['(']) label
          (body.unnamed.text ++ ')' :: middle) spans _ _ wholeSplit cursorEq startEq stopEq
      · rw [wholeSplit]
        simp
      · rw [passedEq, Text.byteLength_append, closing, unnamedWidth, bodyWidth,
          GroupKind.annotationLength]
        omega
      · simp [Outline.content]
  | _ =>
      rw [kindEq] at lengthEq bodyWidth
      change body.width = 0 + body.unnamed.width at bodyWidth
      have noLabel : label = [] := List.length_eq_zero_iff.mp lengthEq
      subst label
      refine ⟨[], before, kept ++ body.unnamed.content, ?_, ?_, ?_, rfl⟩
      · rw [cursorEq]
        rfl
      · rw [wholeEq, Outline.content]
        simp
      · rw [Text.byteLength_append, Outline.byteLength_content, bodyWidth]
        omega

/-- Cutting the annotations out of a derived text leaves the text of the
simplified outline. -/
theorem Derives.exciseFrom_annotations
    {text rest : Text} {outline : Outline} (derived : Derives text outline rest)
    (before kept : Text) (cursor offset : Nat) {whole : Text}
    (wholeEq : whole = before ++ (kept ++ text))
    (cursorEq : cursor = before.byteLength)
    (offsetEq : offset = before.byteLength + kept.byteLength) :
    whole.exciseFrom cursor (outline.annotations offset) =
      kept ++ (outline.simplified.text ++ rest) := by
  induction derived generalizing before kept cursor offset with
  | done text =>
      rw [Outline.annotations, Text.exciseFrom, wholeEq, cursorEq, Text.dropBytes?_append]
      rfl
  | @plain text item middle rest outline split _ _ inductionHypothesis =>
      rw [Outline.annotations, Outline.simplified, Outline.text]
      rw [inductionHypothesis before (kept ++ item) cursor _
        (by rw [wholeEq, split, List.append_assoc]) cursorEq
        (by rw [offsetEq, Text.byteLength_append, Nat.add_assoc])]
      simp
  | @group text middle rest body outline inner _ _ restHypothesis =>
      obtain ⟨settled, passed, pending, excised, wholeSplit, laterEq, keptEq⟩ :=
        inner.exciseFrom_group before kept cursor offset
          (outline.annotations (offset + body.width + 2)) wholeEq cursorEq offsetEq
      rw [Outline.annotations, excised,
        restHypothesis passed pending _ _ wholeSplit rfl laterEq, Outline.simplified,
        Outline.text_group_append, ← List.append_assoc, keptEq, List.append_assoc]

theorem Derives.analysis_simplified
    {pattern : Text} {outline : Outline} (derived : Derives pattern outline []) :
    outline.analysis.simplified = outline.simplified.text := by
  have whole := derived.text_eq
  rw [List.append_nil] at whole
  have excised := derived.exciseFrom_annotations [] [] 0 0
    (show pattern = [] ++ ([] ++ pattern) from rfl) rfl rfl
  rw [Outline.analysis, ← whole, Text.excise, excised]
  simp

theorem Derives.analyze_simplified
    {pattern : Text} {outline : Outline} (derived : Derives pattern outline [])
    (flat : outline.isFlat = true) :
    analyze outline.analysis.simplified = .ok outline.simplified.analysis := by
  have again := derived.simplified
  rw [List.append_nil] at again
  rw [derived.analysis_simplified, again.analyze_eq_ok_iff, outline.isFlat_simplified]
  exact ⟨flat, rfl⟩

/-! ## Idempotence -/

/-- The source text of a group without its name annotation. -/
def GroupDefinition.strippedContent (group : GroupDefinition) : Text :=
  '(' :: group.content.drop ((GroupKind.classify group.content).annotationLength + 1)

theorem Derives.strippedContent_eq
    {text after : Text} {body : Outline} (derived : Derives text body (')' :: after))
    {group : GroupDefinition} (contentEq : group.content = body.content) :
    group.strippedContent = body.unnamed.content := by
  obtain ⟨label, bodyEq, lengthEq, -, -⟩ := derived.exists_label
  have kindEq : GroupKind.classify body.content = body.kind := rfl
  rw [GroupDefinition.strippedContent, contentEq, kindEq, Outline.content, Outline.content,
    bodyEq, ← lengthEq, List.drop_succ_cons, List.append_assoc, List.drop_left]

/-- A group that takes no number has no annotation to lose. -/
theorem Outline.unnamed_of_not_capturing
    {body : Outline} (notCapturing : body.kind.isCapturing = false) :
    body.unnamed = body := by
  have none : body.kind.annotationLength = 0 := by
    cases kindEq : body.kind with
    | named name annotationLength => rw [kindEq] at notCapturing; cases notCapturing
    | _ => rfl
  rw [unnamed, none]
  cases body <;> rfl

/-- Cutting names out adds no entries. -/
theorem Outline.length_definitions_simplified_le
    (outline : Outline) (offset index shifted next : Nat) :
    (outline.simplified.definitions shifted next).length ≤
      (outline.definitions offset index).length := by
  induction outline generalizing offset index shifted next with
  | done => exact Nat.le_refl 0
  | plain item rest inductionHypothesis => exact inductionHypothesis _ _ _ _
  | group body rest _ restHypothesis =>
      rw [simplified, definitions, definitions]
      cases capturing : body.kind.isCapturing with
      | true =>
          rw [if_pos rfl]
          split
          · exact Nat.succ_le_succ (restHypothesis _ _ _ _)
          · exact Nat.le_succ_of_le (restHypothesis _ _ _ _)
      | false =>
          rw [unnamed_of_not_capturing capturing, capturing]
          exact restHypothesis _ _ _ _

theorem Outline.annotations_eq_nil
    {outline : Outline} {offset index : Nat}
    (noNames : ∀ group ∈ outline.definitions offset index, group.name = none)
    (start : Nat) :
    outline.annotations start = [] := by
  induction outline generalizing offset index start with
  | done => rfl
  | plain item rest inductionHypothesis => exact inductionHypothesis noNames _
  | group body rest _ restHypothesis =>
      rw [definitions] at noNames
      rw [annotations]
      cases kindEq : body.kind with
      | named name annotationLength =>
          rw [kindEq] at noNames
          have name := noNames _ List.mem_cons_self
          cases name
      | capturing =>
          rw [kindEq] at noNames
          exact restHypothesis (fun group member => noNames group (List.mem_cons_of_mem _ member)) _
      | _ =>
          rw [kindEq] at noNames
          exact restHypothesis noNames _

/-- Cutting names out keeps all entries, without names, exactly when every entry
is a plain capturing group without its annotation. -/
theorem Derives.keeps_entries_iff
    {text rest : Text} {outline : Outline} (derived : Derives text outline rest)
    (offset index shifted next : Nat) :
    ((outline.simplified.definitions shifted next).length =
          (outline.definitions offset index).length ∧
        ∀ group ∈ outline.simplified.definitions shifted next, group.name = none) ↔
      ∀ group ∈ outline.definitions offset index,
        GroupKind.classify group.strippedContent = .capturing := by
  induction derived generalizing offset index shifted next with
  | done => simp [Outline.simplified, Outline.definitions]
  | plain _ _ _ inductionHypothesis => exact inductionHypothesis _ _ _ _
  | @group text middle rest body outline inner _ _ restHypothesis =>
      rw [Outline.simplified, Outline.definitions, Outline.definitions]
      cases capturing : body.kind.isCapturing with
      | false =>
          rw [Outline.unnamed_of_not_capturing capturing, capturing]
          exact restHypothesis _ _ _ _
      | true =>
          have strippedKind (group : GroupDefinition) (contentEq : group.content = body.content) :
              GroupKind.classify group.strippedContent = body.unnamed.kind := by
            rw [inner.strippedContent_eq contentEq]
            rfl
          have fewer := outline.length_definitions_simplified_le
            (offset + body.width + 2) (index + 1) (shifted + body.unnamed.width + 2) next
          rw [if_pos rfl, List.forall_mem_cons, strippedKind _ rfl]
          cases kindEq : body.unnamed.kind with
          | capturing =>
              rw [show GroupKind.isCapturing .capturing = true from rfl, if_pos rfl,
                List.forall_mem_cons, List.length_cons, List.length_cons, Nat.succ_inj,
                ← restHypothesis _ _ (shifted + body.unnamed.width + 2) (next + 1)]
              simp [GroupKind.name?]
          | named name annotationLength =>
              rw [show GroupKind.isCapturing (.named name annotationLength) = true from rfl,
                if_pos rfl, List.forall_mem_cons]
              simp [GroupKind.name?]
          | nonCapturing | lookaround =>
              constructor
              · rintro ⟨lengths, -⟩
                rw [if_neg (by decide), List.length_cons] at lengths
                omega
              · rintro ⟨impossible, -⟩
                cases impossible

/-- A body that starts with anything but a question mark opens a plain capturing
group. -/
theorem GroupKind.ofBody_eq_capturing
    {body : Text} (plain : body.head? ≠ some '?') : ofBody body = .capturing := by
  cases body with
  | nil => decide
  | cons first body =>
      rw [List.head?_cons, ne_eq, Option.some.injEq] at plain
      have noPrefix (opening : Text) : ('?' :: opening).isPrefixOf (first :: body) = false := by
        simp [List.isPrefixOf, Ne.symm plain]
      have noLookaround : lookaroundOpenings.any (·.isPrefixOf (first :: body)) = false := by
        simp [lookaroundOpenings, noPrefix]
      have noName : annotation? (first :: body) = none := by
        unfold annotation?
        simp [nameOpenings, annotationAfter?, afterOpening?, Ne.symm plain]
      have noFlags : isFlagBody (first :: body) = false := by
        simp [isFlagBody, plain]
      rw [ofBody, noLookaround, noName, noFlags]
      simp [noPrefix]

/-- The simplified pattern of an accepted one is accepted again, and never has
more entries. Analysis is idempotent on it (all entries are kept, none has a
name, and nothing more is cut out) exactly when every entry is a plain capturing
group without its annotation; and that is so whenever no name is followed by a
question mark. -/
theorem analyze_simplified_idempotent_iff
    {pattern : Text} {analysis : Analysis} (analyzed : analyze pattern = .ok analysis) :
    ∃ again, analyze analysis.simplified = .ok again ∧
      again.table.size ≤ analysis.table.size ∧
      ((again.table.size = analysis.table.size ∧
          (∀ group ∈ again.table.groups, group.name = none) ∧
          again.simplified = analysis.simplified) ↔
        ∀ group ∈ analysis.table.groups,
          GroupKind.classify group.strippedContent = .capturing) ∧
      ((∀ group ∈ analysis.table.groups, group.strippedContent.tail.head? ≠ some '?') →
        ∀ group ∈ analysis.table.groups,
          GroupKind.classify group.strippedContent = .capturing) := by
  obtain ⟨outline, derived, flat, rfl⟩ := analyze_eq_ok_iff.mp analyzed
  have again := derived.simplified
  rw [List.append_nil] at again
  have keeps := derived.keeps_entries_iff 0 0 0 0
  refine ⟨outline.simplified.analysis, derived.analyze_simplified flat,
    outline.length_definitions_simplified_le 0 0 0 0, ⟨?_, ?_⟩,
    fun regular group member => GroupKind.ofBody_eq_capturing (regular group member)⟩
  · rintro ⟨lengths, noNames, -⟩
    exact keeps.mp ⟨lengths, noNames⟩
  · intro stripped
    obtain ⟨lengths, noNames⟩ := keeps.mpr stripped
    refine ⟨lengths, noNames, ?_⟩
    have noAnnotations := Outline.annotations_eq_nil noNames 0
    rw [derived.analysis_simplified, Outline.analysis, noAnnotations]
    simp [Text.excise, Text.exciseFrom]

/-- Two names are cut out, and a second analysis finds nothing to do. -/
theorem analyze_simplified_idempotent_of_two_names :
    ∃ analysis again, analyze "(?<a>x)(?P<b>[)])".toList = .ok analysis ∧
      analyze analysis.simplified = .ok again ∧
      again.table.size = analysis.table.size ∧
      (∀ group ∈ again.table.groups, group.name = none) ∧
      again.simplified = analysis.simplified := by
  obtain ⟨again, analyzed, -, idempotent, regular⟩ :=
    @analyze_simplified_idempotent_iff "(?<a>x)(?P<b>[)])".toList _ rfl
  exact ⟨_, again, rfl, analyzed, idempotent.mpr (regular (by decide))⟩

/-- Cutting one name out can uncover another one, which is then cut out by a second
analysis. -/
theorem analyze_simplified_uncovers_name :
    ∃ analysis again, analyze "(?<a>?<b>x)".toList = .ok analysis ∧
      analyze analysis.simplified = .ok again ∧
      (∃ group ∈ again.table.groups, group.name = some ['b']) ∧
      again.simplified ≠ analysis.simplified :=
  ⟨_, _, rfl, rfl, ⟨_, List.mem_cons_self, rfl⟩, by decide⟩

-- Cutting a name out can also leave a group that takes no number.
example :
    ∃ analysis again, analyze "(?<a>?:x)".toList = .ok analysis ∧
      analyze analysis.simplified = .ok again ∧
      analysis.table.size = 1 ∧ again.table.size = 0 :=
  ⟨_, _, rfl, rfl, rfl, rfl⟩

end NamedCapture
