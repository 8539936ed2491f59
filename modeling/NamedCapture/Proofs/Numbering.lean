import NamedCapture.Proofs.Tabulation

/-!
Contract: the table of a pattern lists its capturing groups, at any depth, in
the order of their opening parentheses.

Owns:
- the capturing openings of a pattern, found without pairing parentheses;
- the structural parentheses that match each other;
- what each table entry says about the pattern.

Does not own: the numbers that an engine gives.
-/

namespace NamedCapture

/-! ## Capturing openings and matching parentheses -/

namespace Text

/-- The offsets of the structural opening parentheses, at any depth, whose tails
are classified as capturing. -/
def captures (pattern : Text) : List Nat :=
  pattern.openings.filter fun opening =>
    (GroupKind.classify (Analysis.tailFrom pattern opening)).isCapturing

theorem OpensAt.tailFrom_eq {pattern body : Text} {offset : Nat}
    (opens : pattern.OpensAt offset body) :
    Analysis.tailFrom pattern offset = '(' :: body := by
  obtain ⟨before, rfl, rfl, -⟩ := opens
  rw [Analysis.tailFrom, dropBytes?_append, Option.getD_some]

theorem mem_captures_iff {pattern : Text} {offset : Nat} :
    offset ∈ pattern.captures ↔
      ∃ body, pattern.OpensAt offset body ∧
        (GroupKind.classify ('(' :: body)).isCapturing = true := by
  rw [captures, List.mem_filter, mem_openings_iff]
  constructor
  · rintro ⟨⟨body, opens⟩, capturing⟩
    rw [opens.tailFrom_eq] at capturing
    exact ⟨body, opens, capturing⟩
  · rintro ⟨body, opens, capturing⟩
    rw [← opens.tailFrom_eq] at capturing
    exact ⟨⟨body, opens⟩, capturing⟩

theorem captures_pairwise (pattern : Text) : pattern.captures.Pairwise (· < ·) :=
  pattern.openings_pairwise.filter _

end Text

/-- Parentheses that pair up completely. -/
inductive Balanced : List Parenthesis → Prop where
  | nil : Balanced []
  | pair (opening closing : Nat) {inside later : List Parenthesis}
      (insideBalanced : Balanced inside)
      (laterBalanced : Balanced later) :
      Balanced (.opening opening :: (inside ++ .closing closing :: later))

/-- The structural parentheses at two offsets match: those between them pair
up. -/
def Text.Encloses (pattern : Text) (opening closing : Nat) : Prop :=
  ∃ leading inside trailing,
    pattern.parentheses =
      leading ++ .opening opening :: (inside ++ .closing closing :: trailing) ∧
    Balanced inside

/-! ## Entries of an outline -/

namespace Outline

theorem balanced_parentheses (outline : Outline) (offset : Nat) :
    Balanced (outline.parentheses offset) := by
  induction outline generalizing offset with
  | done => exact .nil
  | plain item rest inductionHypothesis => exact inductionHypothesis _
  | group body rest bodyHypothesis restHypothesis =>
      exact .pair _ _ (bodyHypothesis _) (restHypothesis _)

theorem index_of_getElem?_definitions
    {outline : Outline} {offset index position : Nat} {definition : GroupDefinition}
    (found : (outline.definitions offset index)[position]? = some definition) :
    definition.index = index + position := by
  induction outline generalizing offset index position with
  | done => simp [definitions] at found
  | plain item rest inductionHypothesis => exact inductionHypothesis found
  | group body rest _ restHypothesis =>
      rw [definitions] at found
      split at found
      · cases position with
        | zero =>
            rw [List.getElem?_cons_zero, Option.some.injEq] at found
            subst definition
            rfl
        | succ position =>
            rw [List.getElem?_cons_succ] at found
            rw [restHypothesis found]
            omega
      · exact restHypothesis found

/-- When no capture is inside another group, the entries start at the captures
of any depth. -/
theorem map_start_definitions
    {outline : Outline} (flat : outline.isFlat = true) (offset index : Nat) :
    (outline.definitions offset index).map (·.span.start) = outline.captures offset := by
  induction outline generalizing offset index with
  | done => rfl
  | plain item rest inductionHypothesis => exact inductionHypothesis flat _ index
  | group body rest _ restHypothesis =>
      rw [isFlat, Bool.and_eq_true, Bool.not_eq_true'] at flat
      obtain ⟨bodyFlat, restFlat⟩ := flat
      rw [definitions, captures, (body.captures_eq_nil_iff (offset + 1)).mpr bodyFlat]
      split
      · rw [List.map_cons, restHypothesis restFlat]
        rfl
      · rw [restHypothesis restFlat]
        rfl

/-- The outermost group with this body starts at an offset, in an outline that
itself starts at an offset. -/
inductive HasGroup : Outline → Nat → Outline → Nat → Prop where
  | here (body rest : Outline) (offset : Nat) :
      HasGroup (.group body rest) offset body offset
  | afterPlain (item : Text) {rest : Outline} {offset start : Nat} {body : Outline}
      (later : HasGroup rest (offset + item.byteLength) body start) :
      HasGroup (.plain item rest) offset body start
  | afterGroup (first : Outline) {rest : Outline} {offset start : Nat} {body : Outline}
      (later : HasGroup rest (offset + first.width + 2) body start) :
      HasGroup (.group first rest) offset body start

theorem exists_hasGroup_of_mem_definitions
    {outline : Outline} {offset index : Nat} {definition : GroupDefinition}
    (member : definition ∈ outline.definitions offset index) :
    ∃ body start, HasGroup outline offset body start ∧
      definition.span = ⟨start, start + body.width + 2⟩ ∧
      definition.content = body.content ∧ definition.name = body.kind.name? := by
  induction outline generalizing offset index with
  | done => cases member
  | plain item rest inductionHypothesis =>
      obtain ⟨body, start, later, entry⟩ := inductionHypothesis member
      exact ⟨body, start, .afterPlain item later, entry⟩
  | group first rest _ restHypothesis =>
      rw [definitions] at member
      split at member
      · rcases List.mem_cons.mp member with rfl | member
        · exact ⟨first, offset, .here first rest offset, rfl, rfl, rfl⟩
        · obtain ⟨body, start, later, entry⟩ := restHypothesis member
          exact ⟨body, start, .afterGroup first later, entry⟩
      · obtain ⟨body, start, later, entry⟩ := restHypothesis member
        exact ⟨body, start, .afterGroup first later, entry⟩

theorem HasGroup.text_eq {outline body : Outline} {offset start : Nat}
    (has : HasGroup outline offset body start) :
    ∃ front back, outline.text = front ++ (body.content ++ back) ∧
      start = offset + front.byteLength := by
  induction has with
  | here body rest offset =>
      refine ⟨[], rest.text, ?_, by simp⟩
      rw [← List.append_nil (text _), text_group_append, List.append_nil, List.nil_append]
  | afterPlain item _ inductionHypothesis =>
      obtain ⟨front, back, textEq, startEq⟩ := inductionHypothesis
      refine ⟨item ++ front, back, ?_, ?_⟩
      · rw [text, textEq, List.append_assoc]
      · rw [startEq, Text.byteLength_append, Nat.add_assoc]
  | @afterGroup first rest _ _ _ _ inductionHypothesis =>
      obtain ⟨front, back, textEq, startEq⟩ := inductionHypothesis
      refine ⟨first.content ++ front, back, ?_, ?_⟩
      · rw [← List.append_nil (text _), text_group_append, List.append_nil, textEq,
          List.append_assoc]
      · rw [startEq, Text.byteLength_append, byteLength_content]
        omega

theorem HasGroup.parentheses_eq {outline body : Outline} {offset start : Nat}
    (has : HasGroup outline offset body start) :
    ∃ leading trailing, outline.parentheses offset =
      leading ++ .opening start ::
        (body.parentheses (start + 1) ++
          .closing (start + body.width + 1) :: trailing) := by
  induction has with
  | here body rest offset => exact ⟨[], _, rfl⟩
  | afterPlain item _ inductionHypothesis => exact inductionHypothesis
  | @afterGroup first _ offset _ _ _ inductionHypothesis =>
      obtain ⟨leading, trailing, split⟩ := inductionHypothesis
      refine ⟨.opening offset :: (first.parentheses (offset + 1) ++
        .closing (offset + first.width + 1) :: leading), trailing, ?_⟩
      rw [parentheses, split]
      simp

end Outline

/-! ## The table of a pattern -/

theorem Derives.captures_eq
    {pattern : Text} {outline : Outline} (derived : Derives pattern outline []) :
    pattern.captures = outline.captures 0 := by
  rw [Text.captures, derived.openings_eq]
  exact outline.filter_openings [] [] 0 derived.text_eq rfl

/-- The table of an accepted pattern numbers all its capturing groups, at any
depth, in the order of their opening parentheses. Entry `k` carries the index
`k`, spans the `k`-th capturing opening parenthesis up to the closing one that
matches it, holds the text in between, and has exactly the name that the tail at
its opening parenthesis starts with. -/
theorem analyze_table_numbers_captures
    {pattern : Text} {analysis : Analysis} (analyzed : analyze pattern = .ok analysis) :
    pattern.captures.Pairwise (· < ·) ∧
    (∀ offset, offset ∈ pattern.captures ↔
      ∃ body, pattern.OpensAt offset body ∧
        (GroupKind.classify ('(' :: body)).isCapturing = true) ∧
    analysis.table.size = pattern.captures.length ∧
    ∀ position group, analysis.table.get? position = some group →
      group.index = position ∧
      pattern.captures[position]? = some group.span.start ∧
      (∃ closing, pattern.Encloses group.span.start closing ∧
        group.span.stop = closing + 1) ∧
      pattern.sliceAt? group.span = some group.content ∧
      ∀ name, group.name = some name ↔ ∃ annotationLength,
        GroupKind.classify (Analysis.tailFrom pattern group.span.start) =
          .named name annotationLength := by
  obtain ⟨outline, derived, flat, rfl⟩ := analyze_eq_ok_iff.mp analyzed
  have starts : (outline.definitions 0 0).map (·.span.start) = pattern.captures := by
    rw [derived.captures_eq, Outline.map_start_definitions flat]
  refine ⟨pattern.captures_pairwise, fun offset => Text.mem_captures_iff, ?_, ?_⟩
  · rw [← starts, List.length_map]
    rfl
  intro position group found
  change (outline.definitions 0 0)[position]? = some group at found
  obtain ⟨body, start, has, spanEq, contentEq, nameEq⟩ :=
    Outline.exists_hasGroup_of_mem_definitions (List.mem_of_getElem? found)
  obtain ⟨front, back, textEq, startEq⟩ := has.text_eq
  have whole := derived.text_eq
  rw [List.append_nil, textEq] at whole
  rw [Nat.zero_add] at startEq
  refine ⟨?_, ?_, ?_, ?_, ?_⟩
  · rw [Outline.index_of_getElem?_definitions found, Nat.zero_add]
  · rw [← starts, List.getElem?_map, found]
    rfl
  · obtain ⟨leading, trailing, split⟩ := has.parentheses_eq
    refine ⟨start + body.width + 1, ⟨leading, body.parentheses (start + 1), trailing, ?_,
      body.balanced_parentheses _⟩, ?_⟩
    · rw [spanEq, Text.parentheses, derived.parentheses_eq 0, Place.parentheses_nil,
        List.append_nil, split]
    · rw [spanEq]
  · rw [spanEq, contentEq, whole]
    exact Text.slice?_append front body.content back startEq
      (by rw [startEq, Outline.byteLength_content, Nat.add_assoc])
  · intro name
    have tailEq : Analysis.tailFrom pattern start = '(' :: (body.text ++ ')' :: back) := by
      rw [Analysis.tailFrom, whole, startEq, Text.dropBytes?_append, Outline.content]
      simp
    rw [nameEq, spanEq, tailEq, body.classify_group, GroupKind.name?_eq_some_iff]

/-- A class and an escape hide parentheses, and a group without a number is
skipped. -/
theorem analyze_table_skips_literal_parentheses :
    let pattern : Text := "(?<a>x)[)(](?:y)\\((z)".toList
    ∃ analysis, analyze pattern = .ok analysis ∧ pattern.captures = [0, 18] ∧
      analysis.table.size = pattern.captures.length :=
  ⟨_, rfl, by decide, (analyze_table_numbers_captures rfl).2.2.1⟩

end NamedCapture
