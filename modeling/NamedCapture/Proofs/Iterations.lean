import NamedCapture.Proofs.Accounting
import NamedCapture.Proofs.OpenClasses

/-!
Contract: what holds at every iteration of the pass over the bytes of a pattern.

An iteration stands at a byte, which may be in the middle of a character. What the
pass knows there belongs to the characters that start before this byte: their
structural parentheses have been paired, and their brackets are the open classes.

Owns:
- the state of each iteration;
- the characters that start before a byte, and their parentheses;
- the loop invariant, stated of the pattern and a position alone.

Does not own: what a finished pass returns.
-/

namespace NamedCapture

/-! ## Beginnings of a text -/

namespace Text

/-- The characters of a text that start before a byte offset. -/
def startingBefore : Nat → Text → Text
  | 0, _ => []
  | _ + 1, [] => []
  | count + 1, character :: rest =>
      character :: startingBefore (count + 1 - character.utf8Size) rest

theorem exists_append_startingBefore (text : Text) (position : Nat) :
    ∃ after, text = text.startingBefore position ++ after := by
  induction text generalizing position with
  | nil => exact ⟨[], by cases position <;> rfl⟩
  | cons character rest inductionHypothesis =>
      cases position with
      | zero => exact ⟨character :: rest, rfl⟩
      | succ count =>
          obtain ⟨after, split⟩ := inductionHypothesis (count + 1 - character.utf8Size)
          refine ⟨after, ?_⟩
          rw [startingBefore, List.cons_append, ← split]

/-- The last character of a text, if there is one, starts before a byte offset. -/
def LastStartsBefore (text : Text) (position : Nat) : Prop :=
  ∀ (front : Text) (character : Char), text = front ++ [character] → front.byteLength < position

theorem LastStartsBefore.succ
    {text : Text} {position : Nat} (starts : text.LastStartsBefore position) :
    text.LastStartsBefore (position + 1) :=
  fun front character split => Nat.lt_succ_of_lt (starts front character split)

theorem lastStartsBefore_concat (text : Text) (character : Char) :
    LastStartsBefore (text ++ [character]) (text.byteLength + 1) := by
  intro front last split
  obtain ⟨rfl, -⟩ := List.append_inj' split rfl
  exact Nat.lt_succ_self _

/-- The beginning of a text is known by where its last character starts. -/
theorem startingBefore_append
    {before : Text} {position : Nat} (within : position ≤ before.byteLength)
    (started : before.LastStartsBefore position) (after : Text) :
    startingBefore position (before ++ after) = before := by
  induction before generalizing position with
  | nil =>
      rw [byteLength_nil, Nat.le_zero] at within
      subst within
      cases after <;> rfl
  | cons first before inductionHypothesis =>
      have positive := first.utf8Size_pos
      have later : LastStartsBefore before (position - first.utf8Size) := by
        rintro front character rfl
        have bound := started (first :: front) character rfl
        rw [byteLength_cons] at bound
        omega
      rw [byteLength_cons] at within
      cases position with
      | zero =>
          cases before using List.reverseRecOn with
          | nil => exact absurd (started [] first rfl) (Nat.not_lt_zero _)
          | append_singleton front last => exact absurd (later front last rfl) (by omega)
      | succ count =>
          rw [List.cons_append, startingBefore, inductionHypothesis (by omega) later]

end Text

/-- The parentheses of a beginning are those at lower offsets. -/
theorem Place.parentheses_startingBefore
    (place : Place) (offset position : Nat) (text : Text) :
    place.parentheses offset (text.startingBefore position) =
      (place.parentheses offset text).filter (·.offset < offset + position) := by
  induction text generalizing place offset position with
  | nil => cases position <;> rfl
  | cons character rest inductionHypothesis =>
      cases position with
      | zero =>
          symm
          rw [Text.startingBefore, parentheses_nil, List.filter_eq_nil_iff]
          intro parenthesis member
          have bound := offset_le_of_mem_parentheses member
          simp only [decide_eq_true_eq]
          omega
      | succ count =>
          have here : (place.parenthesis? offset character).toList.filter
              (·.offset < offset + (count + 1)) = (place.parenthesis? offset character).toList := by
            rw [List.filter_eq_self]
            intro parenthesis member
            have same := offset_of_parenthesis?_eq_some (Option.mem_toList.mp member)
            simp only [decide_eq_true_eq]
            omega
          rw [Text.startingBefore, parentheses, parentheses, List.filter_append, here,
            inductionHypothesis]
          congr 1
          apply List.filter_congr
          intro parenthesis member
          have bound := offset_le_of_mem_parentheses member
          simp only [decide_eq_decide]
          omega

namespace Text

theorem parentheses_startingBefore (pattern : Text) (position : Nat) :
    (pattern.startingBefore position).parentheses =
      pattern.parentheses.filter (·.offset < position) := by
  rw [parentheses, Place.parentheses_startingBefore, Nat.zero_add]
  rfl

theorem parentheses_concat (text : Text) (character : Char) :
    Text.parentheses (text ++ [character]) = text.parentheses ++
      ((Place.outside.after text).parenthesis? text.byteLength character).toList := by
  rw [parentheses, Place.parentheses_append, Nat.zero_add, Place.parentheses,
    Place.parentheses_nil, List.append_nil]
  rfl

/-! ## Marks at an offset -/

@[simp] theorem length_marks (text : Text) : text.marks.length = text.byteLength := by
  simp [marks]

theorem getElem?_marks_append (before after : Text) (count : Nat) :
    (Text.marks (before ++ after))[before.byteLength + count]? = after.marks[count]? := by
  have split : Text.marks (before ++ after) = before.marks ++ after.marks := by
    simp [marks]
  rw [split, List.getElem?_append_right (by simp)]
  simp

/-- The first byte of a character means what the character means, and is read with the
mark behind it in sight. -/
theorem getElem?_marks_character (before rest : Text) (character : Char) :
    (Text.marks (before ++ character :: rest))[before.byteLength]? =
        some (.ofChar character) ∧
      (Text.marks (before ++ character :: rest))[before.byteLength + 1]? =
        ScanState.markAfter character rest := by
  have here := getElem?_marks_append before (character :: rest) 0
  have next := getElem?_marks_append before (character :: rest) 1
  rw [marks_cons, Mark.allOfChar_eq, List.cons_append] at here next
  rw [List.getElem?_cons_succ, ← List.head?_eq_getElem?] at next
  exact ⟨here, next⟩

/-- A byte that starts no character means nothing. -/
theorem getElem?_marks_inside
    {before : Text} {position : Nat} (inside : position < before.byteLength)
    (started : before.LastStartsBefore position) (after : Text) :
    (Text.marks (before ++ after))[position]? = some .other := by
  cases before using List.reverseRecOn with
  | nil => exact absurd inside (Nat.not_lt_zero _)
  | append_singleton front character =>
      have behind := started front character rfl
      obtain ⟨count, rfl⟩ : ∃ count, position = byteLength front + (count + 1) :=
        ⟨position - byteLength front - 1, by omega⟩
      have last : byteLength [character] = character.utf8Size := by
        simp
      rw [byteLength_append, last] at inside
      rw [List.append_assoc, List.singleton_append, getElem?_marks_append, marks_cons,
        Mark.allOfChar_eq, List.cons_append, List.getElem?_cons_succ,
        List.getElem?_append_left (by simp; omega), List.getElem?_replicate, if_pos (by omega)]

end Text

/-! ## Iterations -/

namespace ScanState

/-- The state in which the byte at a position is read, if the pass gets there. -/
def reached? (marks : List Mark) : Nat → Option ScanState
  | 0 => some start
  | position + 1 =>
      match reached? marks position, marks[position]? with
      | some state, some mark => (state.step position mark marks[position + 1]?).toOption
      | _, _ => none

theorem reached?_succ_iff {marks : List Mark} {position : Nat} {following : ScanState} :
    reached? marks (position + 1) = some following ↔
      ∃ state mark, reached? marks position = some state ∧ marks[position]? = some mark ∧
        state.step position mark marks[position + 1]? = .ok following := by
  rw [reached?]
  cases reached? marks position with
  | none => simp
  | some state =>
      cases marks[position]? with
      | none => simp
      | some mark =>
          cases stepped : state.step position mark marks[position + 1]? <;>
            simp [Except.toOption, stepped]

/-- The pass goes on from the state of each iteration with the bytes left. -/
theorem run_eq_of_reached?
    {marks : List Mark} {position : Nat} {state : ScanState}
    (reached : reached? marks position = some state) :
    run 0 marks start = run position (marks.drop position) state := by
  induction position generalizing state with
  | zero =>
      cases reached
      rfl
  | succ position inductionHypothesis =>
      obtain ⟨before, mark, beforeEq, markEq, stepped⟩ := reached?_succ_iff.mp reached
      obtain ⟨inside, rfl⟩ := List.getElem?_eq_some_iff.mp markEq
      rw [inductionHypothesis beforeEq, List.drop_eq_getElem_cons inside, run, List.head?_drop,
        stepped]

/-- The only error of a step is a closing parenthesis that nothing is open for. -/
theorem error_eq_of_step
    {state : ScanState} {position : Nat} {mark : Mark} {next : Option Mark}
    {error : PatternError} (failed : state.step position mark next = .error error) :
    error = .unmatchedClose position := by
  unfold step at failed
  split at failed
  case h_4 =>
    split at failed
    case h_4 =>
      unfold closeGroup at failed
      split at failed
      case h_1 =>
        cases failed
        rfl
      all_goals cases failed
    all_goals cases failed
  all_goals cases failed

/-- The pass gets to a position of a pattern unless it has met a stray closing
parenthesis before. -/
theorem reached?_or_stray {marks : List Mark} {position : Nat} (inside : position ≤ marks.length) :
    (∃ state, reached? marks position = some state) ∨
      ∃ earlier < position, run 0 marks start = .error (.unmatchedClose earlier) := by
  induction position with
  | zero => exact .inl ⟨start, rfl⟩
  | succ position inductionHypothesis =>
      rcases inductionHypothesis (by omega) with ⟨state, reached⟩ | ⟨earlier, before, failed⟩
      · cases stepped : state.step position marks[position] marks[position + 1]? with
        | ok following =>
            exact .inl ⟨following,
              reached?_succ_iff.mpr ⟨state, _, reached, List.getElem?_eq_getElem inside, stepped⟩⟩
        | error error =>
            refine .inr ⟨position, Nat.lt_succ_self position, ?_⟩
            rw [run_eq_of_reached? reached, List.drop_eq_getElem_cons inside, run, List.head?_drop,
              stepped, error_eq_of_step stepped]
      · exact .inr ⟨earlier, Nat.lt_succ_of_lt before, failed⟩

/-! ## The characters read -/

/-- The state at a position of a text, of which some characters start before the
position and the others do not. If the position is inside the last of the former, the
rest of this character changes nothing. -/
structure HasRead
    (state : ScanState) (position : Nat) (before after : Text) : Prop where
  within : position ≤ before.byteLength
  started : before.LastStartsBefore position
  settled : position < before.byteLength → IsSettled state.mode
  agrees : (Place.outside.after before).Agrees before.byteLength after state.mode
  paired : start.pairAll before.parentheses = .ok (state.inMode .plain)
  tracked : state.mode.Tracks (Text.marks (before ++ after)) position before.openClasses

theorem hasRead_start (pattern : Text) : start.HasRead 0 [] pattern where
  within := Nat.le_refl 0
  started front character none := by simp at none
  settled inside := absurd inside (Nat.lt_irrefl 0)
  agrees := rfl
  paired := rfl
  tracked := ScanMode.tracks_start _

namespace HasRead

variable {state following : ScanState} {before rest : Text}

/-- The first byte of a character. -/
theorem step_character
    {character : Char} (hasRead : state.HasRead before.byteLength before (character :: rest))
    (stepped : state.step before.byteLength (.ofChar character) (markAfter character rest) =
      .ok following) :
    following.HasRead (before.byteLength + 1) (before ++ [character]) rest := by
  obtain ⟨mode, agrees, settled, stepEq⟩ := step_char hasRead.agrees
  rw [stepped] at stepEq
  have positive := character.utf8Size_pos
  have length : Text.byteLength (before ++ [character]) =
      before.byteLength + character.utf8Size := by
    simp
  have place : Place.outside.after (before ++ [character]) =
      (Place.outside.after before).next character := by
    rw [Place.after_append]
    rfl
  have regroup : (before ++ [character]) ++ rest = before ++ character :: rest := by
    simp
  cases pairedEq : state.pairAll
      ((Place.outside.after before).parenthesis? before.byteLength character).toList with
  | error error =>
      rw [pairedEq] at stepEq
      cases stepEq
  | ok middle =>
      rw [pairedEq] at stepEq
      obtain rfl : following = middle.inMode mode := Except.ok.inj stepEq
      refine {
        within := by omega
        started := before.lastStartsBefore_concat character
        settled := ?settled
        agrees := ?agrees
        paired := ?paired
        tracked := ?tracked }
      case settled =>
        intro inside
        rcases settled with narrow | settled
        · omega
        · exact settled
      case agrees =>
        rw [place, length]
        exact agrees
      case paired =>
        rw [Text.parentheses_concat, pairAll_append, hasRead.paired]
        show (state.inMode .plain).pairAll _ = _
        rw [pairAll_inMode, pairedEq]
        rfl
      case tracked =>
        obtain ⟨here, next⟩ := Text.getElem?_marks_character before rest character
        have kept := hasRead.tracked.step here (by rw [next]; exact stepped)
        change mode.Tracks _ _ (trackClass _ _ mode.depth _) at kept
        rw [ScanMode.depth_eq_of_agrees hasRead.agrees,
          ScanMode.depth_eq_of_agrees agrees] at kept
        rw [Text.openClasses_concat, regroup]
        exact kept

/-- Any byte, at the start of a character or inside of one. -/
theorem step
    {position : Nat} {after : Text} (hasRead : state.HasRead position before after)
    {mark : Mark} (read : (Text.marks (before ++ after))[position]? = some mark)
    (stepped : state.step position mark (Text.marks (before ++ after))[position + 1]? =
      .ok following) :
    ∃ front back, before ++ after = front ++ back ∧
      following.HasRead (position + 1) front back := by
  rcases Nat.lt_or_eq_of_le hasRead.within with inside | rfl
  · have meaning := Text.getElem?_marks_inside inside hasRead.started after
    rw [read, Option.some.injEq] at meaning
    subst meaning
    have settled := hasRead.settled inside
    rw [step_other settled, Except.ok.injEq] at stepped
    subst stepped
    exact ⟨before, after, rfl, inside, hasRead.started.succ, fun _ => settled, hasRead.agrees,
      hasRead.paired, hasRead.tracked.advance read (by decide)⟩
  · cases after with
    | nil =>
        rw [List.append_nil, List.getElem?_eq_none (by simp)] at read
        cases read
    | cons character rest =>
        obtain ⟨here, next⟩ := Text.getElem?_marks_character before rest character
        rw [here, Option.some.injEq] at read
        rw [next, ← read] at stepped
        exact ⟨before ++ [character], rest, by simp, hasRead.step_character stepped⟩

end HasRead

/-- At every position that the pass gets to, it has read the characters that start
before it. -/
theorem hasRead_of_reached?
    {pattern : Text} {position : Nat} {state : ScanState}
    (reached : reached? pattern.marks position = some state) :
    ∃ after, pattern = pattern.startingBefore position ++ after ∧
      state.HasRead position (pattern.startingBefore position) after := by
  have split : ∃ before after, pattern = before ++ after ∧
      state.HasRead position before after := by
    induction position generalizing state with
    | zero =>
        cases reached
        exact ⟨[], pattern, rfl, hasRead_start pattern⟩
    | succ position inductionHypothesis =>
        obtain ⟨last, mark, lastEq, markEq, stepped⟩ := reached?_succ_iff.mp reached
        obtain ⟨before, after, rfl, hasRead⟩ := inductionHypothesis lastEq
        exact hasRead.step markEq stepped
  obtain ⟨before, after, rfl, hasRead⟩ := split
  rw [Text.startingBefore_append hasRead.within hasRead.started]
  exact ⟨after, rfl, hasRead⟩

/-- A mode that was reached knows the classes opened by the characters before. -/
theorem tracks_of_reached?
    {pattern : Text} {position : Nat} {state : ScanState}
    (reached : reached? pattern.marks position = some state) :
    state.mode.Tracks pattern.marks position (pattern.startingBefore position).openClasses := by
  obtain ⟨after, split, hasRead⟩ := hasRead_of_reached? reached
  have tracks := hasRead.tracked
  rw [← split] at tracks
  exact tracks

/-- A state that was reached accounts for the parentheses before. -/
theorem accountsFor_of_reached?
    {pattern : Text} {position : Nat} {state : ScanState}
    (reached : reached? pattern.marks position = some state) :
    (state.inMode .plain).AccountsFor (pattern.startingBefore position).parentheses := by
  obtain ⟨after, -, hasRead⟩ := hasRead_of_reached? reached
  exact .of_pairAll (Text.parentheses_pairwise _) hasRead.paired

end ScanState

/-! ## The loop invariant -/

namespace Text

theorem mem_parentheses_startingBefore_iff
    {pattern : Text} {position : Nat} {parenthesis : Parenthesis} :
    parenthesis ∈ (pattern.startingBefore position).parentheses ↔
      parenthesis ∈ pattern.parentheses ∧ parenthesis.offset < position := by
  rw [parentheses_startingBefore, List.mem_filter, decide_eq_true_eq]

theorem mem_openings_startingBefore_iff {pattern : Text} {position offset : Nat} :
    offset ∈ (pattern.startingBefore position).openings ↔
      offset ∈ pattern.openings ∧ offset < position := by
  simp only [openings, Parenthesis.mem_filterMap_openingOffset?_iff,
    mem_parentheses_startingBefore_iff]
  rfl

/-- Parentheses match in a beginning of a pattern when they match in the pattern and
both have been read. -/
theorem encloses_startingBefore_iff {pattern : Text} {position opening closing : Nat} :
    (pattern.startingBefore position).Encloses opening closing ↔
      pattern.Encloses opening closing ∧ closing < position := by
  obtain ⟨later, laterEq⟩ : ∃ later,
      pattern.parentheses = (pattern.startingBefore position).parentheses ++ later := by
    obtain ⟨after, split⟩ := exists_append_startingBefore pattern position
    have read := Place.parentheses_append .outside 0 (pattern.startingBefore position) after
    rw [← split] at read
    exact ⟨_, read⟩
  constructor
  · intro matched
    refine ⟨?_, (mem_parentheses_startingBefore_iff.mp (Matched.mem matched).2).2⟩
    have whole := Matched.append matched [] later
    rw [List.nil_append, ← laterEq] at whole
    exact whole
  · rintro ⟨⟨leading, inside, trailing, whole, balanced⟩, before⟩
    have member : .closing closing ∈ (pattern.startingBefore position).parentheses := by
      rw [mem_parentheses_startingBefore_iff]
      exact ⟨by simp [whole], before⟩
    obtain ⟨front, back, frontEq⟩ := List.append_of_mem member
    have first : pattern.parentheses =
        (leading ++ .opening opening :: inside) ++ .closing closing :: trailing := by
      simp [whole]
    have second : pattern.parentheses = front ++ .closing closing :: (back ++ later) := by
      rw [laterEq, frontEq]
      simp
    obtain ⟨rfl, -⟩ := parentheses_split_unique first second
    exact ⟨leading, inside, back, by simp [frontEq], balanced⟩

/-- What is unclosed in a beginning of a pattern has no partner that has been read. -/
theorem isUnclosed_startingBefore_iff {pattern : Text} {position opening : Nat} :
    (pattern.startingBefore position).IsUnclosed opening ↔
      opening ∈ pattern.openings ∧ opening < position ∧
        ∀ closing < position, ¬ pattern.Encloses opening closing := by
  simp only [IsUnclosed, mem_parentheses_startingBefore_iff, encloses_startingBefore_iff,
    openings, Parenthesis.mem_filterMap_openingOffset?_iff, and_assoc, not_and']
  rfl

/-- At a position the pass takes a closing bracket as a literal of the innermost class,
which a bracket opened. -/
def TakesLiteral (pattern : Text) (bracket position : Nat) : Prop :=
  ∃ state depth, ScanState.reached? pattern.marks position = some state ∧
    state.mode = .inClass depth (some position) ∧
    pattern.marks[position]? = some .closeBracket ∧
    (pattern.startingBefore position).openClasses.head? = some bracket

end Text

namespace ScanState

theorem literalClosePosition_bounds (bracket : Nat) (next : Option Mark) :
    bracket < literalClosePosition bracket next ∧
      literalClosePosition bracket next ≤ bracket + 2 := by
  unfold literalClosePosition
  split <;> omega

end ScanState

/-- The bracket of a class settles where a closing bracket is a literal of it. -/
theorem Text.TakesLiteral.position_eq
    {pattern : Text} {bracket position : Nat} (takes : pattern.TakesLiteral bracket position) :
    position = ScanState.literalClosePosition bracket pattern.marks[bracket + 1]? := by
  obtain ⟨state, depth, reached, modeEq, -, innermost⟩ := takes
  obtain ⟨other, otherInnermost, positionEq, -⟩ :=
    (ScanState.tracks_of_reached? reached).pending depth position modeEq
  rw [innermost, Option.some.injEq] at otherInnermost
  rw [positionEq, otherInnermost]

namespace ScanState

/-- What the pattern says about a state in which the byte at a position is read.

The depth of a class is the number of classes that are open, and one can be taken off
unless it is one. A pending offset belongs to the innermost class; one that has been
passed was no closing bracket. The open groups are the structural opening parentheses
read so far that no parenthesis read so far closes, and the inner ones are those behind
the outermost open group. The finished groups have been passed. -/
structure IsConsistent (pattern : Text) (position : Nat) (state : ScanState) : Prop where
  deep : ∀ depth, state.mode.classDepth? = some depth →
    1 ≤ depth ∧ (depth ≠ 1 → depth - 1 + 1 = depth ∧ 1 ≤ depth - 1)
  counted : state.mode.depth = (pattern.startingBefore position).openClasses.length
  pending : ∀ depth close, state.mode = .inClass depth (some close) → ∃ bracket,
    (pattern.startingBefore position).openClasses.head? = some bracket ∧
    pattern.marks[bracket]? = some .openBracket ∧
    bracket < close ∧ close ≤ bracket + 2 ∧
    (close < position → pattern.marks[close]? ≠ some .closeBracket)
  openedIncreasing : state.opened.reverse.Pairwise (· < ·)
  mem_opened : ∀ offset, offset ∈ state.opened ↔
    offset ∈ pattern.openings ∧ offset < position ∧
      ∀ closing < position, ¬ pattern.Encloses offset closing
  innerIncreasing : state.inner.Pairwise (· < ·)
  idle : state.opened = [] → state.inner = []
  mem_inner : ∀ outermost, state.opened.getLast? = some outermost → ∀ offset,
    offset ∈ state.inner ↔
      offset ∈ pattern.openings ∧ outermost < offset ∧ offset < position
  apart : state.groups.Pairwise fun first second => first.span.stop ≤ second.span.start
  passed : ∀ group ∈ state.groups,
    group.span.start < group.span.stop ∧ group.span.stop ≤ position

theorem isConsistent_of_reached?
    {pattern : Text} {position : Nat} {state : ScanState}
    (reached : reached? pattern.marks position = some state) :
    state.IsConsistent pattern position := by
  have tracks := tracks_of_reached? reached
  have accounts := accountsFor_of_reached? reached
  have leaves : LeavesOpen (pattern.startingBefore position).parentheses state.opened :=
    accounts.leaves
  have inside : ∀ outermost, state.opened.getLast? = some outermost →
      state.inner = (pattern.startingBefore position).openings.filter (outermost < ·) :=
    accounts.inside
  refine {
    deep := ?deep
    counted := tracks.counted.symm
    pending := ?pending
    openedIncreasing := (Text.openings_pairwise _).sublist leaves.reverse_sublist
    mem_opened := ?opened
    innerIncreasing := ?innerIncreasing
    idle := accounts.idle
    mem_inner := ?inner
    apart := accounts.apart
    passed := ?passed }
  case deep =>
    intro depth found
    have positive := tracks.deep depth found
    exact ⟨positive, by omega⟩
  case pending =>
    intro depth close pendingEq
    obtain ⟨bracket, innermost, rfl, notTaken⟩ := tracks.pending depth close pendingEq
    obtain ⟨lower, upper⟩ := literalClosePosition_bounds bracket pattern.marks[bracket + 1]?
    exact ⟨bracket, innermost, tracks.brackets bracket (List.mem_of_mem_head? innermost), lower,
      upper, notTaken⟩
  case opened =>
    intro offset
    rw [← Text.isUnclosed_iff leaves, Text.isUnclosed_startingBefore_iff]
  case innerIncreasing =>
    cases openedEq : state.opened.getLast? with
    | none =>
        have empty : state.inner = [] := accounts.idle (List.getLast?_eq_none_iff.mp openedEq)
        rw [empty]
        exact .nil
    | some outermost =>
        rw [inside outermost openedEq]
        exact (Text.openings_pairwise _).filter _
  case inner =>
    intro outermost last offset
    rw [inside outermost last, List.mem_filter, Text.mem_openings_startingBefore_iff,
      decide_eq_true_eq]
    exact ⟨fun ⟨⟨listed, before⟩, behind⟩ => ⟨listed, behind, before⟩,
      fun ⟨listed, behind, before⟩ => ⟨⟨listed, before⟩, behind⟩⟩
  case passed =>
    intro group member
    obtain ⟨proper, closing, closingMember, stopEq⟩ := accounts.finished group member
    have before : closing < position :=
      (Text.mem_parentheses_startingBefore_iff.mp closingMember).2
    exact ⟨proper, by omega⟩

end ScanState

/-- At every iteration of the pass over any pattern the state is consistent with the
pattern, and the pass goes on from it. Every position is reached, unless a stray closing
parenthesis has ended the pass before. A class takes a closing bracket as a literal once
at most. -/
theorem scan_keeps_invariant (pattern : Text) :
    (∀ position state, ScanState.reached? pattern.marks position = some state →
      ScanState.run 0 pattern.marks .start =
        ScanState.run position (pattern.marks.drop position) state ∧
      state.IsConsistent pattern position) ∧
    (∀ position ≤ pattern.byteLength,
      (∃ state, ScanState.reached? pattern.marks position = some state) ∨
      ∃ earlier < position, scanPattern pattern = .error (.unmatchedClose earlier)) ∧
    ∀ bracket first second, pattern.TakesLiteral bracket first →
      pattern.TakesLiteral bracket second → first = second := by
  refine ⟨?_, ?_, ?_⟩
  · intro position state reached
    exact ⟨ScanState.run_eq_of_reached? reached, ScanState.isConsistent_of_reached? reached⟩
  · intro position inside
    rw [← Text.length_marks] at inside
    rcases ScanState.reached?_or_stray inside with reached | ⟨earlier, before, failed⟩
    · exact .inl reached
    · refine .inr ⟨earlier, before, ?_⟩
      rw [scanPattern, failed]
  · intro bracket first second firstTakes secondTakes
    rw [firstTakes.position_eq, secondTakes.position_eq]

/-- The pass stands inside a wide character in a class, behind a literal bracket, with
one group open and another one closed inside it. -/
theorem scan_keeps_invariant_inside_class :
    let pattern : Text := "(a(b)[^]\\é[".toList
    ScanState.reached? pattern.marks 10 = some ⟨.inClass 1 none, [0], [2], []⟩ ∧
    ScanState.IsConsistent pattern 10 ⟨.inClass 1 none, [0], [2], []⟩ ∧
    pattern.TakesLiteral 5 7 ∧
    (∀ position, pattern.TakesLiteral 5 position → position = 7) ∧
    (pattern.startingBefore 12).openClasses = [11, 5] := by
  intro pattern
  have takes : pattern.TakesLiteral 5 7 :=
    ⟨⟨.inClass 1 (some 7), [0], [2], []⟩, 1, rfl, rfl, rfl, rfl⟩
  obtain ⟨consistent, -, once⟩ := scan_keeps_invariant pattern
  exact ⟨rfl, (consistent 10 _ rfl).2, takes,
    fun position other => once 5 position 7 other takes, rfl⟩

end NamedCapture
