import NamedCapture.Proofs.InlineFlags
import NamedCapture.Proofs.Verdict

/-!
Contract: the analysis of a pattern behind another one.

Once the scan of an accepted pattern ends outside classes and escapes, whatever
comes next is analyzed on its own: its groups are numbered on and its offsets
moved, and so is the parenthesis of its error.

Owns:
- outlines one behind the other, and outlines that start elsewhere;
- the derivation of an accepted pattern before any text;
- the analysis of a pattern behind another one and behind inline flags.

Does not own: patterns that end in a class or an escape.
-/

namespace NamedCapture

/-! ## Moved groups and errors -/

/-- The group in a table behind other groups, in a pattern behind other bytes. -/
def GroupDefinition.movedBy (groups bytes : Nat) (group : GroupDefinition) : GroupDefinition :=
  { group with
    index := group.index + groups
    span := ⟨group.span.start + bytes, group.span.stop + bytes⟩ }

def Defect.movedBy (bytes : Nat) (defect : Defect) : Defect :=
  { defect with position := defect.position + bytes }

/-- The error in a pattern behind other bytes. -/
def PatternError.movedBy (bytes : Nat) : PatternError → PatternError
  | .unbalancedParenthesis defect => .unbalancedParenthesis (defect.movedBy bytes)
  | .nestedCapture defect => .nestedCapture (defect.movedBy bytes)

/-- The analysis of a pattern of a given width with another one behind it. -/
def Analysis.followedBy (first : Analysis) (bytes : Nat) (second : Analysis) : Analysis :=
  ⟨first.simplified ++ second.simplified,
    ⟨first.table.groups ++ second.table.groups.map (·.movedBy first.table.size bytes)⟩⟩

/-- The result for a pattern, made the result behind another one. -/
def Analysis.continueWith (first : Analysis) (bytes : Nat) :
    Except PatternError Analysis → Except PatternError Analysis
  | .error error => .error (error.movedBy bytes)
  | .ok second => .ok (first.followedBy bytes second)

/-! ## Outlines one behind the other -/

namespace Outline

def append : Outline → Outline → Outline
  | .done, second => second
  | .plain item rest, second => .plain item (rest.append second)
  | .group body rest, second => .group body (rest.append second)

theorem text_append (first second : Outline) :
    (first.append second).text = first.text ++ second.text := by
  induction first with
  | done => rfl
  | plain item rest inductionHypothesis =>
      rw [append, text, text, inductionHypothesis, List.append_assoc]
  | group body rest _ restHypothesis =>
      rw [append, text, text, restHypothesis]
      simp

theorem simplified_append (first second : Outline) :
    (first.append second).simplified = first.simplified.append second.simplified := by
  induction first with
  | done => rfl
  | plain item rest inductionHypothesis =>
      rw [append, simplified, simplified, append, inductionHypothesis]
  | group body rest _ restHypothesis =>
      rw [append, simplified, simplified, append, restHypothesis]

theorem innerCaptures_append (first second : Outline) (offset : Nat) :
    (first.append second).innerCaptures offset =
      first.innerCaptures offset ++ second.innerCaptures (offset + first.width) := by
  induction first generalizing offset with
  | done => rfl
  | plain item rest inductionHypothesis =>
      rw [append, innerCaptures, innerCaptures, inductionHypothesis, width_plain, Nat.add_assoc]
  | group body rest _ restHypothesis =>
      have groupEnd : offset + body.width + 2 + rest.width =
          offset + (body.width + rest.width + 2) := by omega
      rw [append, innerCaptures, innerCaptures, restHypothesis, width_group, groupEnd,
        List.append_assoc]

/-- The groups of the second outline are numbered on. -/
theorem definitions_append (first second : Outline) (offset index : Nat) :
    (first.append second).definitions offset index =
      first.definitions offset index ++
        second.definitions (offset + first.width)
          (index + (first.definitions offset index).length) := by
  induction first generalizing offset index with
  | done => rfl
  | plain item rest inductionHypothesis =>
      rw [append, definitions, definitions, inductionHypothesis, width_plain, Nat.add_assoc]
  | group body rest _ restHypothesis =>
      have groupEnd : offset + body.width + 2 + rest.width =
          offset + (body.width + rest.width + 2) := by omega
      rw [append, definitions, definitions, width_group, restHypothesis, restHypothesis, groupEnd]
      split
      · rw [List.cons_append, List.length_cons, Nat.add_right_comm index 1, Nat.add_assoc index]
      · rfl

/-! ## Outlines that start elsewhere -/

theorem captures_add (outline : Outline) (offset distance : Nat) :
    outline.captures (offset + distance) =
      (outline.captures offset).map (· + distance) := by
  induction outline generalizing offset with
  | done => rfl
  | plain item rest inductionHypothesis =>
      rw [captures, captures, Nat.add_right_comm, inductionHypothesis]
  | group body rest bodyHypothesis restHypothesis =>
      have restStart : offset + distance + body.width + 2 =
          offset + body.width + 2 + distance := by omega
      rw [captures, captures, Nat.add_right_comm, restStart, bodyHypothesis, restHypothesis]
      split <;> simp

theorem innerCaptures_add (outline : Outline) (offset distance : Nat) :
    outline.innerCaptures (offset + distance) =
      (outline.innerCaptures offset).map (· + distance) := by
  induction outline generalizing offset with
  | done => rfl
  | plain item rest inductionHypothesis =>
      rw [innerCaptures, innerCaptures, Nat.add_right_comm, inductionHypothesis]
  | group body rest _ restHypothesis =>
      have restStart : offset + distance + body.width + 2 =
          offset + body.width + 2 + distance := by omega
      rw [innerCaptures, innerCaptures, Nat.add_right_comm, restStart, captures_add,
        restHypothesis, List.map_append]

theorem definitions_add (outline : Outline) (offset distance index count : Nat) :
    outline.definitions (offset + distance) (index + count) =
      (outline.definitions offset index).map (·.movedBy count distance) := by
  induction outline generalizing offset index with
  | done => rfl
  | plain item rest inductionHypothesis =>
      rw [definitions, definitions, Nat.add_right_comm, inductionHypothesis]
  | group body rest _ restHypothesis =>
      have restStart : offset + distance + body.width + 2 =
          offset + body.width + 2 + distance := by omega
      rw [definitions, definitions, restStart, Nat.add_right_comm index count 1, restHypothesis,
        restHypothesis]
      split <;> rfl

end Outline

theorem Derives.append
    {first second rest : Text} {firstOutline secondOutline : Outline}
    (firstDerived : Derives first firstOutline second)
    (secondDerived : Derives second secondOutline rest) :
    Derives first (firstOutline.append secondOutline) rest := by
  induction firstDerived with
  | done => exact secondDerived
  | plain split read _ inductionHypothesis =>
      exact .plain split read (inductionHypothesis secondDerived)
  | group inner _ _ restHypothesis => exact .group inner (restHypothesis secondDerived)

/-- The analysis of two outlines one behind the other, when the first one is derived
before any text. -/
theorem Derives.analysis_append
    {second : Text} {first secondOutline : Outline}
    (firstDerived : ∀ other, Derives (first.text ++ other) first other)
    (secondDerived : Derives second secondOutline []) :
    (first.append secondOutline).analysis =
      first.analysis.followedBy first.width secondOutline.analysis := by
  have alone := firstDerived []
  rw [List.append_nil] at alone
  have whole := (firstDerived second).append secondDerived
  apply Analysis.eq_of_groups
  · show _ = first.analysis.simplified ++ secondOutline.analysis.simplified
    rw [whole.analysis_simplified, alone.analysis_simplified, secondDerived.analysis_simplified,
      Outline.simplified_append, Outline.text_append]
  · show (first.append secondOutline).definitions 0 0 = first.definitions 0 0 ++
      (secondOutline.definitions 0 0).map (·.movedBy (first.definitions 0 0).length first.width)
    rw [Outline.definitions_append, Outline.definitions_add]

/-! ## The end of the first pattern -/

/-- The scan of the pattern ends outside classes and escapes. -/
def Text.EndsOutside (pattern : Text) : Prop :=
  ∃ state, ScanState.run 0 pattern.marks .start = .ok state ∧ state.mode = .plain

theorem Place.eq_outside_of_agrees
    {place : Place} {position : Nat} (agrees : place.Agrees position [] .plain) :
    place = .outside := by
  cases place with
  | outside => rfl
  | inside depth =>
      obtain ⟨literalClose, modeEq, -⟩ := agrees
      cases modeEq
  | _ => cases agrees

theorem Text.EndsOutside.after_eq {pattern : Text} (ends : pattern.EndsOutside) :
    Place.outside.after pattern = .outside := by
  obtain ⟨state, ran, plain⟩ := ends
  have agrees : (Place.outside.after pattern).Agrees (0 + pattern.byteLength) [] state.mode :=
    ScanState.agrees_of_run pattern (show Place.outside.Agrees 0 pattern .plain from rfl) ran
  rw [plain] at agrees
  exact Place.eq_outside_of_agrees agrees

/-- Behind parentheses that pair up a closing one closes the innermost open group. -/
theorem ScanState.exists_pairAll_closing
    {parentheses : List Parenthesis} (balanced : Balanced parentheses)
    {state : ScanState} {innermost : Nat} {remaining : List Nat}
    (opened : state.opened = innermost :: remaining) (closing : Nat) :
    ∃ final, state.pairAll (parentheses ++ [.closing closing]) = .ok final ∧
      final.opened = remaining := by
  obtain ⟨filled, filledEq, filledOpened⟩ := exists_pairAll_of_balanced balanced state
  obtain ⟨final, closed, finalOpened⟩ :=
    exists_closeGroup (filledOpened.trans opened) closing
  refine ⟨final, ?_, finalOpened⟩
  rw [pairAll_append, filledEq]
  show (filled.closeGroup closing).bind _ = _
  rw [closed]
  rfl

/-- Read as a balanced list before a closing parenthesis, two lists that agree have the
same closing parenthesis. -/
theorem Balanced.append_closing_unique
    {first second trailing : List Parenthesis} {finish closing : Nat}
    (firstBalanced : Balanced first) (secondBalanced : Balanced second)
    (same : first ++ [.closing finish] = second ++ .closing closing :: trailing) :
    finish = closing := by
  rcases List.append_eq_append_iff.mp same with ⟨gap, secondEq, restEq⟩ | ⟨gap, firstEq, restEq⟩
  · cases gap with
    | nil => simp_all
    | cons parenthesis gap => simp at restEq
  · cases gap with
    | nil => simp_all
    | cons parenthesis gap =>
        obtain ⟨rfl, -⟩ := List.cons.inj restEq
        rw [firstEq] at firstBalanced
        exact absurd firstBalanced (secondBalanced.not_append_closing closing gap)

/-- A derived pattern that ends outside classes and escapes is derived before any
text. -/
theorem Derives.exists_before
    {pattern : Text} {derivedOutline : Outline} (derived : Derives pattern derivedOutline [])
    (outside : Place.outside.after pattern = .outside) :
    ∃ outline, pattern = outline.text ∧
      ∀ other, Derives (outline.text ++ other) outline other := by
  have parenthesesEq : Place.outside.parentheses 0 (pattern ++ [')']) =
      pattern.parentheses ++ [.closing pattern.byteLength] := by
    rw [Place.parentheses_append, outside, Nat.zero_add]
    rfl
  have balanced := derived.balanced
  -- Behind the pattern a closing parenthesis ends the reading where the pattern ends.
  obtain ⟨final, paired, finalOpened⟩ := ScanState.exists_pairAll_closing balanced
    (ScanState.openGroup_opened .start 0) pattern.byteLength
  rw [← parenthesesEq] at paired
  obtain ⟨outline, rest, stopped, ⟨unopened, -⟩ | ⟨-, after, rfl⟩⟩ :=
    exists_derives_of_pairAll (pattern ++ [')']) paired finalOpened
  · cases unopened
  refine ⟨outline, ?_, stopped.read_local (List.cons_ne_nil _ _)⟩
  have split := stopped.parentheses_eq 0
  rw [parenthesesEq, Place.parentheses_outside_closing] at split
  have widthEq : pattern.byteLength = 0 + outline.width :=
    balanced.append_closing_unique (outline.balanced_parentheses 0) split
  have textEq := stopped.text_eq
  cases after with
  | nil => exact List.append_cancel_right textEq
  | cons character after =>
      have bytes := congrArg Text.byteLength textEq
      have positive := character.utf8Size_pos
      have width : outline.text.byteLength = outline.width := rfl
      simp only [Text.byteLength_append, Text.byteLength_cons, Text.byteLength_nil] at bytes
      omega

/-! ## The scan of the second pattern -/

theorem Place.parentheses_add (place : Place) (offset distance : Nat) (text : Text) :
    place.parentheses (offset + distance) text =
      (place.parentheses offset text).map (·.relocate (· + distance)) := by
  induction text generalizing place offset with
  | nil => rfl
  | cons character rest inductionHypothesis =>
      have here : place.parenthesis? (offset + distance) character =
          (place.parenthesis? offset character).map (·.relocate (· + distance)) := by
        unfold parenthesis?
        split
        · split
          · rfl
          · split <;> rfl
        · rfl
      rw [parentheses, parentheses, Nat.add_right_comm, inductionHypothesis, here,
        List.map_append]
      cases place.parenthesis? offset character <;> rfl

theorem Text.parentheses_append
    {first : Text} (outside : Place.outside.after first = .outside) (second : Text) :
    parentheses (first ++ second) =
      first.parentheses ++ second.parentheses.map (·.relocate (· + first.byteLength)) := by
  rw [parentheses, Place.parentheses_append, outside, Place.parentheses_add]
  rfl

theorem LeavesOpen.relocate
    {parentheses : List Parenthesis} {opened : List Nat}
    (leaves : LeavesOpen parentheses opened) (place : Nat → Nat) :
    LeavesOpen (parentheses.map (·.relocate place)) (opened.map place) := by
  induction leaves with
  | balanced balanced => exact .balanced (balanced.relocate place)
  | opening offset _ balanced inductionHypothesis =>
      rw [List.map_append, List.map_cons, List.map_cons]
      exact .opening (place offset) inductionHypothesis (balanced.relocate place)

/-- An opening parenthesis that the second pattern never closes is never closed behind
the first one either. -/
theorem analyze_append_of_leavesOpen
    {first second : Text} (outside : Place.outside.after first = .outside)
    (firstBalanced : Balanced first.parentheses) {innermost : Nat} {opened : List Nat}
    (leaves : LeavesOpen second.parentheses (innermost :: opened)) :
    analyze (first ++ second) = .error (.unclosedGroup (innermost + first.byteLength)) := by
  have moved := (leaves.relocate (· + first.byteLength)).balanced_append firstBalanced
  rw [← Text.parentheses_append outside, List.map_cons] at moved
  exact analyze_of_scanPattern_error (scanPattern_of_leavesOpen moved)

/-- A closing parenthesis without a partner in the second pattern finds none in the
first one. -/
theorem analyze_append_of_stray
    {first second : Text} (outside : Place.outside.after first = .outside)
    (firstBalanced : Balanced first.parentheses)
    {leading trailing : List Parenthesis} {closing : Nat}
    (split : second.parentheses = leading ++ .closing closing :: trailing)
    (balanced : Balanced leading) :
    analyze (first ++ second) = .error (.unmatchedClose (closing + first.byteLength)) := by
  have whole := Text.parentheses_append outside second
  rw [split, List.map_append, List.map_cons, ← List.append_assoc] at whole
  have leadingBalanced := firstBalanced.append (balanced.relocate (· + first.byteLength))
  exact analyze_of_scanPattern_error (scanPattern_of_stray whole leadingBalanced)

/-! ## The analysis of both patterns -/

/-- The outline of the second pattern decides. -/
theorem Derives.analyze_text_append
    {first outline : Outline} {second : Text}
    (firstDerived : ∀ other, Derives (first.text ++ other) first other)
    (flat : first.isFlat = true) (derived : Derives second outline []) :
    analyze (first.text ++ second) =
      first.analysis.continueWith first.width (analyze second) := by
  have whole := (firstDerived second).append derived
  have noInner := (first.innerCaptures_eq_nil_iff 0).mpr flat
  have innerEq : (first.append outline).innerCaptures 0 =
      (outline.innerCaptures 0).map (· + first.width) := by
    rw [Outline.innerCaptures_append, noInner, List.nil_append, Outline.innerCaptures_add]
  cases inner : (outline.innerCaptures 0).head? with
  | some capture =>
      have moved : ((first.append outline).innerCaptures 0).head? =
          some (capture + first.width) := by
        rw [innerEq, List.head?_map, inner]
        rfl
      rw [derived.analyze_of_innerCapture inner, whole.analyze_of_innerCapture moved]
      rfl
  | none =>
      have none := List.head?_eq_none_iff.mp inner
      have outlineFlat := (outline.innerCaptures_eq_nil_iff 0).mp none
      have wholeFlat : (first.append outline).isFlat = true := by
        rw [← Outline.innerCaptures_eq_nil_iff _ 0, innerEq, none]
        rfl
      rw [derived.analyze_eq_ok_iff.mpr ⟨outlineFlat, rfl⟩]
      apply whole.analyze_eq_ok_iff.mpr
      exact ⟨wholeFlat, (Derives.analysis_append firstDerived derived).symm⟩

theorem analyze_append_of_outside
    {first : Text} {analysis : Analysis} (analyzed : analyze first = .ok analysis)
    (outside : Place.outside.after first = .outside) (second : Text) :
    analyze (first ++ second) = analysis.continueWith first.byteLength (analyze second) := by
  obtain ⟨_, someDerived, -, -⟩ := analyze_eq_ok_iff.mp analyzed
  obtain ⟨outline, rfl, before⟩ := someDerived.exists_before outside
  have derived := before []
  rw [List.append_nil] at derived
  obtain ⟨flat, rfl⟩ := derived.analyze_eq_ok_iff.mp analyzed
  have balanced := derived.balanced
  rcases leavesOpen_or_stray second.parentheses with
    ⟨opened, leaves⟩ | ⟨leading, closing, trailing, split, leadingBalanced⟩
  · cases opened with
    | cons innermost opened =>
        rw [analyze_append_of_leavesOpen outside balanced leaves,
          analyze_of_scanPattern_error (scanPattern_of_leavesOpen leaves)]
        rfl
    | nil =>
        obtain ⟨secondOutline, secondDerived⟩ :=
          exists_derives_of_balanced leaves.balanced_of_nil
        exact Derives.analyze_text_append before flat secondDerived
  · rw [analyze_append_of_stray outside balanced split leadingBalanced,
      analyze_of_scanPattern_error (scanPattern_of_stray split leadingBalanced)]
    rfl

/-- What a group says apart from where it stands. -/
def GroupDefinition.withoutSpan (group : GroupDefinition) : Nat × Option Text × Text :=
  (group.index, group.name, group.content)

theorem Analysis.withoutSpan_followedBy_of_empty (text : Text) (bytes : Nat) (later : Analysis) :
    (Analysis.followedBy ⟨text, ⟨[]⟩⟩ bytes later).table.groups.map (·.withoutSpan) =
      later.table.groups.map (·.withoutSpan) := by
  show (later.table.groups.map (·.movedBy 0 bytes)).map _ = _
  rw [List.map_map]
  rfl

/-- Behind an accepted pattern whose scan ends outside classes and escapes any pattern is
analyzed as it is alone: an error is the same one, moved, and an analysis is continued
from that of the first pattern. In particular inline flags change neither the number
nor the order, the names or the contents of the groups of any pattern. -/
theorem analyze_append :
    (∀ (first second : Text) (analysis : Analysis),
      analyze first = .ok analysis → first.EndsOutside →
        analyze (first ++ second) =
          analysis.continueWith first.byteLength (analyze second)) ∧
    ∀ (options : CompileOptions) (pattern : Text),
      (∀ error, analyze pattern = .error error →
        analyze (options.inlineFlags ++ pattern) =
          .error (error.movedBy options.inlineFlags.byteLength)) ∧
      ∀ analysis, analyze pattern = .ok analysis →
        ∃ flagged, analyze (options.inlineFlags ++ pattern) = .ok flagged ∧
          flagged.simplified = options.inlineFlags ++ analysis.simplified ∧
          flagged.table.groups.map (·.withoutSpan) =
            analysis.table.groups.map (·.withoutSpan) := by
  refine ⟨?_, ?_⟩
  · intro first second analysis analyzed ends
    exact analyze_append_of_outside analyzed ends.after_eq second
  · intro options pattern
    have behind := analyze_append_of_outside options.analyze_inlineFlags
      options.after_inlineFlags pattern
    constructor
    · intro error failed
      rw [behind, failed]
      rfl
    · intro analysis analyzed
      rw [analyzed] at behind
      exact ⟨_, behind, rfl, Analysis.withoutSpan_followedBy_of_empty _ _ analysis⟩

/-- The class and the escape at the end of the first pattern are closed, so the name
behind them is found, numbered on and moved. -/
theorem analyze_append_behind_escape :
    let first : Text := "(?<a>[)])\\(".toList
    ∃ analysis, analyze first = .ok analysis ∧ first.EndsOutside ∧
      analyze (first ++ "(?<b>y)".toList) =
        .ok ⟨"([)])\\((y)".toList, ⟨[⟨0, "(?<a>[)])".toList, some ['a'], ⟨0, 9⟩⟩,
          ⟨1, "(?<b>y)".toList, some ['b'], ⟨11, 18⟩⟩]⟩⟩ := by
  intro first
  have analyzed : analyze first = .ok ⟨"([)])\\(".toList,
      ⟨[⟨0, "(?<a>[)])".toList, some ['a'], ⟨0, 9⟩⟩]⟩⟩ := rfl
  have ends : first.EndsOutside := ⟨_, rfl, rfl⟩
  exact ⟨_, analyzed, ends, analyze_append.1 first _ _ analyzed ends⟩

end NamedCapture
