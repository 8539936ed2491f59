import NamedCapture.Proofs.Annotations
import NamedCapture.Proofs.Copying
import NamedCapture.Proofs.Languages

/-!
Contract: the analysis never has to make do with an empty text.

Where an offset splits a character, or a span is not in order, the analysis goes on
with nothing in place of the text. No such offset or span ever arises from a scan: each
one stands between characters of the pattern.

Owns:
- an excision that fails where a copy would be skipped;
- the room that is reserved for a simplified pattern;
- the slices and suffixes of a scanned pattern that the analysis reads;
- the shape of a table: its spans, contents and names.

Does not own: which groups have an entry, or how they are numbered.
-/

namespace NamedCapture

namespace Text

/-! ## Boundaries -/

theorem IsBoundary.exists_dropBytes? {text : Text} {offset : Nat}
    (boundary : text.IsBoundary offset) : ∃ rest, text.dropBytes? offset = some rest := by
  obtain ⟨before, after, rfl, rfl⟩ := boundary
  exact ⟨after, dropBytes?_append before after⟩

theorem isBoundary_zero (text : Text) : text.IsBoundary 0 :=
  ⟨[], text, rfl, rfl⟩

/-! ## Excisions without skipped copies -/

/-- Cut spans out of the part of a text that starts at a cursor, unless something that
should be kept is not a slice. -/
def exciseFrom? (text : Text) (cursor : Nat) : List Span → Option Text
  | [] => text.dropBytes? cursor
  | span :: spans =>
      (text.slice? cursor span.start).bind fun kept =>
        (exciseFrom? text (max cursor span.stop) spans).map (kept ++ ·)

/-- Spans that slice a text one after the other are cut out without a skipped copy. -/
theorem exciseFrom?_eq_some
    {text : Text} {cursor : Nat} {spans : List Span} (boundary : text.IsBoundary cursor)
    (behind : ∀ span ∈ spans, cursor ≤ span.start)
    (admitted : ∀ span ∈ spans, text.Admits span)
    (apart : spans.Pairwise fun first second => first.stop ≤ second.start) :
    text.exciseFrom? cursor spans = some (text.exciseFrom cursor spans) := by
  induction spans generalizing cursor with
  | nil =>
      obtain ⟨rest, dropped⟩ := boundary.exists_dropBytes?
      rw [exciseFrom?, exciseFrom, dropped]
      rfl
  | cons span spans inductionHypothesis =>
      have first := admitted span List.mem_cons_self
      have reached := behind span List.mem_cons_self
      have ordered := first.ordered
      have inside := first.inside
      rw [List.pairwise_cons] at apart
      have between : text.Admits ⟨cursor, span.start⟩ :=
        ⟨reached, Nat.le_trans ordered inside, boundary, first.startBoundary⟩
      obtain ⟨kept, sliced⟩ := between.exists_sliceAt?
      change text.slice? cursor span.start = some kept at sliced
      have moved : max cursor span.stop = span.stop := by omega
      rw [exciseFrom?, exciseFrom, sliced, moved, inductionHypothesis first.stopBoundary apart.1
        (fun later member => admitted later (by simp [member])) apart.2]
      rfl

end Text

/-! ## Spans of removed segments -/

/-- A removed segment is sliced by its span. -/
theorem Segment.exists_of_mem_removedSpans
    {offset : Nat} {segments : List Segment} {span : Span}
    (member : span ∈ removedSpans offset segments) :
    ∃ before removed after, whole segments = before ++ (removed ++ after) ∧
      span.start = offset + before.byteLength ∧
      span.stop = offset + before.byteLength + removed.byteLength := by
  induction segments generalizing offset with
  | nil => cases member
  | cons segment segments inductionHypothesis =>
      have moved (size : Nat) (later : span ∈ removedSpans (offset + size) segments)
          (sizeEq : size = segment.text.byteLength) :
          ∃ before removed after, whole (segment :: segments) = before ++ (removed ++ after) ∧
            span.start = offset + before.byteLength ∧
            span.stop = offset + before.byteLength + removed.byteLength := by
        obtain ⟨before, removed, after, wholeEq, startEq, stopEq⟩ := inductionHypothesis later
        refine ⟨segment.text ++ before, removed, after, ?_, ?_, ?_⟩
        · rw [List.append_assoc, ← wholeEq]
          rfl
        · rw [startEq, Text.byteLength_append, sizeEq, Nat.add_assoc]
        · rw [stopEq, Text.byteLength_append, sizeEq]
          omega
      cases segment with
      | kept text => exact moved text.byteLength member rfl
      | removed text =>
          rw [removedSpans, List.mem_cons] at member
          rcases member with here | later
          · subst here
            exact ⟨[], text, whole segments, rfl, rfl, rfl⟩
          · exact moved text.byteLength later rfl

/-- The annotations of an accepted pattern slice it. -/
theorem Derives.admits_of_mem_annotations
    {pattern : Text} {outline : Outline} (derived : Derives pattern outline []) {span : Span}
    (member : span ∈ outline.annotations 0) : pattern.Admits span := by
  obtain ⟨wholeEq, -, spansEq⟩ := derived.segments_spec
  rw [← spansEq] at member
  obtain ⟨before, removed, after, segmentsEq, startEq, stopEq⟩ :=
    Segment.exists_of_mem_removedSpans member
  rw [wholeEq, ← derived.eq_text] at segmentsEq
  apply Text.admits_of_sliceAt?
  rw [segmentsEq]
  exact Text.slice?_append before removed after (by omega) (by omega)

/-- No copy is skipped when the annotations of an accepted pattern are cut out. -/
theorem Derives.exciseFrom?_annotations
    {pattern : Text} {outline : Outline} (derived : Derives pattern outline []) :
    pattern.exciseFrom? 0 (outline.annotations 0) =
      some (pattern.excise (outline.annotations 0)) := by
  apply Text.exciseFrom?_eq_some pattern.isBoundary_zero
  · intro span _
    exact Nat.zero_le _
  · intro span member
    exact derived.admits_of_mem_annotations member
  · obtain ⟨-, -, spansEq⟩ := derived.segments_spec
    rw [← spansEq]
    exact Segment.removedSpans_pairwise 0 outline.segments

/-- No build stops at the annotations of an accepted pattern that fits into memory, and
the room reserved is just what the simplified pattern takes. -/
theorem analyze_reserves_exactly
    {pattern : Text} {analysis : Analysis} (analyzed : analyze pattern = .ok analysis)
    (fits : pattern.byteLength < UInt64.size) (overflow : Overflow) :
    pattern.reserved? overflow (analysis.table.annotations pattern) =
        some analysis.simplified.byteLength ∧
      pattern.rewrite? overflow (analysis.table.annotations pattern) =
        some analysis.simplified := by
  obtain ⟨outline, derived, -, rfl⟩ := analyze_eq_ok_iff.mp analyzed
  have lengths := derived.byteLength_simplified_add
  have excised : outline.analysis.simplified =
      pattern.excise (outline.analysis.table.annotations pattern) := by
    rw [derived.annotations_table, derived.eq_text]
    rfl
  have added := overflow.addWidths?_of_fits
    (show 0 + ((outline.analysis.table.annotations pattern).map Span.width).sum < _ by omega)
  have reserved : pattern.reserved? overflow (outline.analysis.table.annotations pattern) =
      some outline.analysis.simplified.byteLength := by
    rw [Text.reserved?, added, Option.map_some, Nat.zero_add, ← lengths, Nat.add_sub_cancel]
  refine ⟨reserved, ?_⟩
  rw [Text.rewrite?, reserved, excised]
  rfl

/-! ## Scanned groups -/

namespace Outline

theorem exists_hasGroup_of_mem_groups
    {outline : Outline} {offset : Nat} {scanned : ScannedGroup}
    (member : scanned ∈ outline.groups offset) :
    ∃ body start, HasGroup outline offset body start ∧
      scanned.span = ⟨start, start + body.width + 2⟩ ∧
      scanned.inner = body.openings (start + 1) := by
  induction outline generalizing offset with
  | done => cases member
  | plain item rest inductionHypothesis =>
      obtain ⟨body, start, later, entry⟩ := inductionHypothesis member
      exact ⟨body, start, .afterPlain item later, entry⟩
  | group first rest _ restHypothesis =>
      rw [groups, List.mem_cons] at member
      rcases member with here | later
      · subst here
        exact ⟨first, offset, .here first rest offset, rfl, rfl⟩
      · obtain ⟨body, start, behind, entry⟩ := restHypothesis later
        exact ⟨body, start, .afterGroup first behind, entry⟩

/-- A group of an outline is sliced out of its text by the group's span. -/
theorem HasGroup.sliceAt?_eq
    {pattern : Text} {outline body : Outline} {start : Nat}
    (derived : Derives pattern outline []) (has : HasGroup outline 0 body start) :
    pattern.sliceAt? ⟨start, start + body.width + 2⟩ = some body.content := by
  obtain ⟨front, back, textEq, startEq⟩ := has.text_eq
  rw [derived.eq_text, textEq]
  apply Text.slice?_append front body.content back
  · rw [startEq, Nat.zero_add]
  · rw [startEq, Nat.zero_add, byteLength_content, Nat.add_assoc]

end Outline

/-- At an offset that a scan lists inside a group the pattern has a parenthesis. -/
theorem Derives.exists_opensAt_of_mem_inner
    {pattern : Text} {outline : Outline} (derived : Derives pattern outline [])
    {scanned : ScannedGroup} (member : scanned ∈ outline.groups 0) {offset : Nat}
    (inside : offset ∈ scanned.inner) :
    ∃ body, pattern.OpensAt offset body := by
  apply Text.mem_openings_iff.mp
  rw [derived.openings_eq, ← outline.flatMap_groups 0, List.mem_flatMap]
  exact ⟨scanned, member, by simp [inside]⟩

/-! ## Tables -/

/-- At an offset the pattern has the opening of a named group, and right behind it a
nonempty name of letters. -/
structure Text.SpellsNameAt (pattern : Text) (offset : Nat) (name : Text) : Prop where
  nonempty : name ≠ []
  letters : ∀ letter ∈ name, GroupKind.IsAsciiLetter letter
  spelled : ∃ opening : Text, (opening = "(?<".toList ∨ opening = "(?P<".toList) ∧
    pattern.slice? offset (offset + opening.byteLength) = some opening ∧
    pattern.slice? (offset + opening.byteLength)
      (offset + opening.byteLength + name.byteLength) = some name

/-- The shape of a table: its spans are not empty, stand one after the other and end in
the pattern; a content is the group that its span slices out, with its parentheses; a
name is spelled where its group opens. -/
structure GroupTable.IsWellFormed (table : GroupTable) (pattern : Text) : Prop where
  apart : table.groups.Pairwise fun first second => first.span.stop ≤ second.span.start
  spans : ∀ group ∈ table.groups,
    group.span.start < group.span.stop ∧ group.span.stop ≤ pattern.byteLength
  contents : ∀ group ∈ table.groups,
    pattern.sliceAt? group.span = some group.content ∧
      ∃ body, group.content = '(' :: (body ++ [')'])
  names : ∀ group ∈ table.groups, ∀ name, group.name = some name →
    pattern.SpellsNameAt group.span.start name

namespace Outline

theorem le_start_of_mem_definitions
    {outline : Outline} {offset index : Nat} {group : GroupDefinition}
    (member : group ∈ outline.definitions offset index) : offset ≤ group.span.start := by
  obtain ⟨body, start, has, spanEq, -⟩ := exists_hasGroup_of_mem_definitions member
  obtain ⟨front, back, -, startEq⟩ := has.text_eq
  rw [spanEq, startEq]
  exact Nat.le_add_right offset _

theorem definitions_pairwise (outline : Outline) (offset index : Nat) :
    (outline.definitions offset index).Pairwise fun first second =>
      first.span.stop ≤ second.span.start := by
  induction outline generalizing offset index with
  | done => exact .nil
  | plain item rest inductionHypothesis => exact inductionHypothesis _ index
  | group body rest _ restHypothesis =>
      rw [definitions]
      split
      · apply List.Pairwise.cons
        · intro later member
          exact le_start_of_mem_definitions member
        · exact restHypothesis _ _
      · exact restHypothesis _ _

end Outline

theorem Derives.sliceAt?_of_mem_definitions
    {pattern : Text} {outline : Outline} (derived : Derives pattern outline [])
    {group : GroupDefinition} (member : group ∈ outline.definitions 0 0) :
    pattern.sliceAt? group.span = some group.content ∧
      group.span.start < group.span.stop ∧ ∃ body, group.content = '(' :: (body ++ [')']) := by
  obtain ⟨body, start, has, spanEq, contentEq, -⟩ :=
    Outline.exists_hasGroup_of_mem_definitions member
  rw [spanEq, contentEq]
  refine ⟨has.sliceAt?_eq derived, ?_, body.text, rfl⟩
  show start < start + body.width + 2
  omega

theorem Derives.spellsNameAt_of_mem_definitions
    {pattern : Text} {outline : Outline} (derived : Derives pattern outline [])
    (flat : outline.isFlat = true) {group : GroupDefinition} {name : Text}
    (member : group ∈ outline.definitions 0 0) (nameEq : group.name = some name) :
    pattern.SpellsNameAt group.span.start name := by
  obtain ⟨label, after, ⟨before, split, startEq, -⟩, written, -⟩ :=
    derived.exists_label_of_mem_definitions flat member nameEq
  obtain ⟨opening, spells, -⟩ := GroupKind.exists_spellsName_of_isLabel written after
  have patternEq : pattern = before ++ (('(' :: opening) ++ (name ++ '>' :: after)) := by
    rw [split, spells.split]
    rfl
  refine ⟨spells.nonempty, spells.letters, '(' :: opening, ?_, ?_, ?_⟩
  · rcases spells.known with rfl | rfl <;> simp
  · rw [patternEq]
    exact Text.slice?_append before ('(' :: opening) _ startEq.symm (by rw [startEq])
  · rw [patternEq, ← List.append_assoc]
    apply Text.slice?_append <;> rw [Text.byteLength_append, startEq]

theorem Derives.table_isWellFormed
    {pattern : Text} {outline : Outline} (derived : Derives pattern outline [])
    (flat : outline.isFlat = true) : outline.analysis.table.IsWellFormed pattern where
  apart := outline.definitions_pairwise 0 0
  spans group member := by
    obtain ⟨sliced, nonempty, -⟩ := derived.sliceAt?_of_mem_definitions member
    exact ⟨nonempty, (Text.admits_of_sliceAt? sliced).inside⟩
  contents group member := by
    obtain ⟨sliced, -, parentheses⟩ := derived.sliceAt?_of_mem_definitions member
    exact ⟨sliced, parentheses⟩
  names _ member _ nameEq := derived.spellsNameAt_of_mem_definitions flat member nameEq

/-! ## Analyses -/

/-- Whenever a pattern can be scanned, all that the analysis reads of it is there. The
span of each outermost group admits a slice, which starts and ends with the group's
parentheses; at each offset inside a group the rest of the pattern starts with a
parenthesis; and when the annotations that were collected are cut out, no copy is
skipped. The table of an accepted pattern is well formed. -/
theorem analyze_never_falls_back (pattern : Text) :
    (∀ groups, scanPattern pattern = .ok groups →
      (∀ scanned ∈ groups,
        pattern.Admits scanned.span ∧
        (∃ body, pattern.sliceAt? scanned.span = some ('(' :: (body ++ [')']))) ∧
        ∀ offset ∈ scanned.inner, pattern.IsBoundary offset ∧ offset < pattern.byteLength ∧
          ∃ body, pattern.dropBytes? offset = some ('(' :: body)) ∧
      ∀ progress, Analysis.absorbAll pattern ⟨[], []⟩ groups = .ok progress →
        pattern.exciseFrom? 0 progress.annotations =
          some (pattern.excise progress.annotations)) ∧
    ∀ analysis, analyze pattern = .ok analysis → analysis.table.IsWellFormed pattern := by
  refine ⟨?_, ?_⟩
  · intro groups scannedEq
    obtain ⟨outline, derived⟩ := exists_derives_of_scanPattern scannedEq
    rw [scanPattern_of_derives derived, Except.ok.injEq] at scannedEq
    subst scannedEq
    refine ⟨?_, ?_⟩
    · intro scanned member
      obtain ⟨body, start, has, spanEq, -⟩ := Outline.exists_hasGroup_of_mem_groups member
      have sliced := has.sliceAt?_eq derived
      rw [← spanEq] at sliced
      refine ⟨Text.admits_of_sliceAt? sliced, ⟨body.text, sliced⟩, ?_⟩
      intro offset inside
      obtain ⟨rest, before, split, startEq, -⟩ := derived.exists_opensAt_of_mem_inner member inside
      refine ⟨⟨before, '(' :: rest, split, startEq⟩, ?_, rest, ?_⟩
      · have opening : '('.utf8Size = 1 := rfl
        rw [split, Text.byteLength_append, Text.byteLength_cons, startEq, opening]
        omega
      · rw [split, ← startEq]
        exact Text.dropBytes?_append before ('(' :: rest)
    · intro progress absorbed
      have whole := derived.text_eq
      obtain ⟨-, rfl⟩ := (Analysis.absorbAll_groups_eq_ok_iff outline [] [] whole rfl).mp absorbed
      exact derived.exciseFrom?_annotations
  · intro analysis analyzed
    obtain ⟨outline, derived, flat, rfl⟩ := analyze_eq_ok_iff.mp analyzed
    exact derived.table_isWellFormed flat

/-- Wide characters stand before a group, in its body and behind an escape: both
annotations are cut out and no copy is skipped. -/
theorem analyze_never_falls_back_at_wide_characters :
    let pattern : Text := "é(?<w>ü(?=ß))\\é(?P<b>y)".toList
    ∃ analysis, analyze pattern = .ok analysis ∧
      scanPattern pattern = .ok [⟨⟨2, 16⟩, [9]⟩, ⟨⟨19, 27⟩, []⟩] ∧
      pattern.exciseFrom? 0 [⟨3, 7⟩, ⟨20, 25⟩] = some analysis.simplified ∧
      analysis.table.IsWellFormed pattern := by
  intro pattern
  obtain ⟨scanned, accepted⟩ := analyze_never_falls_back pattern
  refine ⟨_, rfl, rfl, ?_, accepted _ rfl⟩
  exact (scanned [⟨⟨2, 16⟩, [9]⟩, ⟨⟨19, 27⟩, []⟩] rfl).2 ⟨_, [⟨3, 7⟩, ⟨20, 25⟩]⟩ rfl

end NamedCapture
