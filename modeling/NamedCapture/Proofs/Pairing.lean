import Mathlib.Data.List.Basic
import Mathlib.Data.List.Induction
import Mathlib.Order.Bounds.Basic
import NamedCapture.Proofs.Numbering

/-!
Contract: what pairing the parentheses of any pattern ends in.

Read from left to right, parentheses pair up but for some openings, or they pair up
completely until a closing one has no partner. The pairing tells these cases apart,
and the offset that it reports is the right one by a description that mentions no
stack.

Owns:
- lists of parentheses that leave some openings open, and the openings they leave;
- the partners of a parenthesis, and the parentheses that have none;
- the scan of a pattern whose parentheses do not pair up.

Does not own: the kinds of groups.
-/

namespace NamedCapture

/-! ## Balanced lists -/

theorem Balanced.append
    {first second : List Parenthesis} (firstBalanced : Balanced first)
    (secondBalanced : Balanced second) : Balanced (first ++ second) := by
  induction firstBalanced with
  | nil => exact secondBalanced
  | pair opening closing inside _ _ laterHypothesis =>
      rw [List.cons_append, List.append_assoc, List.cons_append]
      exact .pair opening closing inside laterHypothesis

namespace ScanState

theorem opened_of_closeGroup
    {state following : ScanState} {position : Nat}
    (closed : state.closeGroup position = .ok following) :
    ∀ offset ∈ following.opened, offset ∈ state.opened := by
  rcases state with ⟨mode, opened, inner, groups⟩
  match opened with
  | [] => cases closed
  | [first] =>
      cases closed
      simp
  | first :: second :: remaining =>
      cases closed
      exact fun offset member => List.mem_cons_of_mem first member

/-- Parentheses that pair up can be paired from any state, and leave the same groups
open. -/
theorem exists_pairAll_of_balanced
    {parentheses : List Parenthesis} (balanced : Balanced parentheses) (state : ScanState) :
    ∃ following, state.pairAll parentheses = .ok following ∧
      following.opened = state.opened := by
  induction balanced generalizing state with
  | nil => exact ⟨state, rfl, rfl⟩
  | @pair opening closing inside later _ _ insideHypothesis laterHypothesis =>
      obtain ⟨filled, filledEq, filledOpened⟩ := insideHypothesis (state.openGroup opening)
      rw [openGroup_opened] at filledOpened
      obtain ⟨closed, closedEq, closedOpened⟩ := exists_closeGroup filledOpened closing
      obtain ⟨following, followingEq, followingOpened⟩ := laterHypothesis closed
      refine ⟨following, ?_, followingOpened.trans closedOpened⟩
      show (state.openGroup opening).pairAll _ = _
      rw [pairAll_append, filledEq]
      show (filled.closeGroup closing).bind _ = _
      rw [closedEq]
      exact followingEq

/-- A group that is open was open before or has been opened. -/
theorem opened_of_pairAll
    {parentheses : List Parenthesis} {state following : ScanState}
    (paired : state.pairAll parentheses = .ok following) {offset : Nat}
    (member : offset ∈ following.opened) :
    offset ∈ state.opened ∨ .opening offset ∈ parentheses := by
  induction parentheses generalizing state with
  | nil =>
      cases paired
      exact .inl member
  | cons parenthesis parentheses inductionHypothesis =>
      obtain ⟨middle, first, later⟩ := pairAll_cons_eq_ok_iff.mp paired
      rcases inductionHypothesis later with before | after
      · cases parenthesis with
        | opening other =>
            cases first
            rw [openGroup_opened, List.mem_cons] at before
            rcases before with rfl | before
            · exact .inr List.mem_cons_self
            · exact .inl before
        | closing other => exact .inl (opened_of_closeGroup first _ before)
      · exact .inr (List.mem_cons_of_mem _ after)

end ScanState

/-- A balanced list does not go on behind a balanced part with a closing
parenthesis. -/
theorem Balanced.not_append_closing
    {inside : List Parenthesis} (balanced : Balanced inside) (closing : Nat)
    (trailing : List Parenthesis) :
    ¬ Balanced (inside ++ .closing closing :: trailing) := by
  intro whole
  obtain ⟨following, paired, -⟩ := ScanState.exists_pairAll_of_balanced whole .start
  obtain ⟨filled, filledEq, filledOpened⟩ := ScanState.exists_pairAll_of_balanced balanced .start
  rw [ScanState.pairAll_append, filledEq] at paired
  change (filled.closeGroup closing).bind _ = _ at paired
  rw [ScanState.closeGroup, filledOpened] at paired
  cases paired

/-- A balanced list does not end with an opening parenthesis and a balanced part. -/
theorem Balanced.not_opening_append
    {inside : List Parenthesis} (balanced : Balanced inside) (opening : Nat)
    (leading : List Parenthesis) :
    ¬ Balanced (leading ++ .opening opening :: inside) := by
  intro whole
  obtain ⟨following, paired, settled⟩ := ScanState.exists_pairAll_of_balanced whole .start
  obtain ⟨state, -, later⟩ := ScanState.pairAll_append_eq_ok_iff.mp paired
  change (state.openGroup opening).pairAll inside = _ at later
  obtain ⟨filled, filledEq, filledOpened⟩ :=
    ScanState.exists_pairAll_of_balanced balanced (state.openGroup opening)
  rw [filledEq, Except.ok.injEq] at later
  subst later
  rw [filledOpened, ScanState.openGroup_opened] at settled
  cases settled

/-! ## Partners -/

/-- Two parentheses of a list match: those between them pair up. -/
def Matched (parentheses : List Parenthesis) (opening closing : Nat) : Prop :=
  ∃ leading inside trailing,
    parentheses = leading ++ .opening opening :: (inside ++ .closing closing :: trailing) ∧
    Balanced inside

theorem Matched.append
    {parentheses : List Parenthesis} {opening closing : Nat}
    (matched : Matched parentheses opening closing) (front back : List Parenthesis) :
    Matched (front ++ (parentheses ++ back)) opening closing := by
  obtain ⟨leading, inside, trailing, rfl, balanced⟩ := matched
  exact ⟨front ++ leading, inside, trailing ++ back, by simp, balanced⟩

theorem Matched.mem
    {parentheses : List Parenthesis} {opening closing : Nat}
    (matched : Matched parentheses opening closing) :
    .opening opening ∈ parentheses ∧ .closing closing ∈ parentheses := by
  obtain ⟨leading, inside, trailing, rfl, -⟩ := matched
  simp

/-- In a balanced list every parenthesis has a partner. -/
theorem Balanced.exists_partner
    {parentheses : List Parenthesis} (balanced : Balanced parentheses) :
    (∀ opening, .opening opening ∈ parentheses →
      ∃ closing, Matched parentheses opening closing) ∧
    ∀ closing, .closing closing ∈ parentheses →
      ∃ opening, Matched parentheses opening closing := by
  induction balanced with
  | nil => simp
  | @pair first last inside later insideBalanced _ insideHypothesis laterHypothesis =>
      have outer : Matched (.opening first :: (inside ++ .closing last :: later)) first last :=
        ⟨[], inside, later, rfl, insideBalanced⟩
      have inner {opening closing : Nat} (matched : Matched inside opening closing) :
          Matched (.opening first :: (inside ++ .closing last :: later)) opening closing :=
        matched.append [.opening first] _
      have behind {opening closing : Nat} (matched : Matched later opening closing) :
          Matched (.opening first :: (inside ++ .closing last :: later)) opening closing := by
        have moved := matched.append (.opening first :: (inside ++ [.closing last])) []
        simpa using moved
      constructor
      · intro opening member
        simp only [List.mem_cons, List.mem_append, Parenthesis.opening.injEq, reduceCtorEq,
          false_or] at member
        rcases member with rfl | inInside | inLater
        · exact ⟨last, outer⟩
        · obtain ⟨closing, matched⟩ := insideHypothesis.1 opening inInside
          exact ⟨closing, inner matched⟩
        · obtain ⟨closing, matched⟩ := laterHypothesis.1 opening inLater
          exact ⟨closing, behind matched⟩
      · intro closing member
        simp only [List.mem_cons, List.mem_append, Parenthesis.closing.injEq, reduceCtorEq,
          false_or] at member
        rcases member with inInside | rfl | inLater
        · obtain ⟨opening, matched⟩ := insideHypothesis.2 closing inInside
          exact ⟨opening, inner matched⟩
        · exact ⟨first, outer⟩
        · obtain ⟨opening, matched⟩ := laterHypothesis.2 closing inLater
          exact ⟨opening, behind matched⟩

/-! ## Openings that are left open -/

/-- Parentheses that pair up but for some openings, whose offsets are listed innermost
first. -/
inductive LeavesOpen : List Parenthesis → List Nat → Prop where
  | balanced {parentheses : List Parenthesis} (balanced : Balanced parentheses) :
      LeavesOpen parentheses []
  | opening {leading inside : List Parenthesis} {opened : List Nat} (offset : Nat)
      (before : LeavesOpen leading opened)
      (balanced : Balanced inside) :
      LeavesOpen (leading ++ .opening offset :: inside) (offset :: opened)

namespace LeavesOpen

theorem balanced_of_nil
    {parentheses : List Parenthesis} (leaves : LeavesOpen parentheses []) :
    Balanced parentheses := by
  cases leaves with
  | balanced balanced => exact balanced

theorem append_balanced
    {parentheses later : List Parenthesis} {opened : List Nat}
    (leaves : LeavesOpen parentheses opened) (laterBalanced : Balanced later) :
    LeavesOpen (parentheses ++ later) opened := by
  cases leaves with
  | balanced balanced => exact .balanced (balanced.append laterBalanced)
  | opening offset before balanced =>
      rw [List.append_assoc, List.cons_append]
      exact .opening offset before (balanced.append laterBalanced)

theorem append_closing
    {parentheses : List Parenthesis} {innermost : Nat} {opened : List Nat}
    (leaves : LeavesOpen parentheses (innermost :: opened)) (closing : Nat) :
    LeavesOpen (parentheses ++ [.closing closing]) opened := by
  cases leaves with
  | @opening leading inside _ _ before balanced =>
      have group : Balanced (.opening innermost :: (inside ++ [.closing closing])) :=
        .pair innermost closing balanced .nil
      rw [List.append_assoc, List.cons_append]
      exact before.append_balanced group

/-- What a balanced list comes before leaves the same openings open. -/
theorem balanced_append
    {parentheses later : List Parenthesis} {opened : List Nat}
    (balanced : Balanced parentheses) (leaves : LeavesOpen later opened) :
    LeavesOpen (parentheses ++ later) opened := by
  induction leaves with
  | balanced laterBalanced => exact .balanced (balanced.append laterBalanced)
  | opening offset _ insideBalanced inductionHypothesis =>
      rw [← List.append_assoc]
      exact .opening offset inductionHypothesis insideBalanced

/-- Every closing parenthesis has a partner. -/
theorem exists_opening
    {parentheses : List Parenthesis} {opened : List Nat}
    (leaves : LeavesOpen parentheses opened) {closing : Nat}
    (member : .closing closing ∈ parentheses) :
    ∃ opening, Matched parentheses opening closing := by
  induction leaves with
  | balanced balanced => exact balanced.exists_partner.2 closing member
  | @opening leading inside opened offset _ balanced inductionHypothesis =>
      simp only [List.mem_append, List.mem_cons, reduceCtorEq, false_or] at member
      rcases member with inLeading | inInside
      · obtain ⟨opening, matched⟩ := inductionHypothesis inLeading
        exact ⟨opening, matched.append [] _⟩
      · obtain ⟨opening, matched⟩ := balanced.exists_partner.2 closing inInside
        have moved := matched.append (leading ++ [.opening offset]) []
        exact ⟨opening, by simpa using moved⟩

/-- The pairing leaves exactly these openings open. -/
theorem exists_pairAll
    {parentheses : List Parenthesis} {opened : List Nat}
    (leaves : LeavesOpen parentheses opened) :
    ∃ following, ScanState.start.pairAll parentheses = .ok following ∧
      following.opened = opened := by
  induction leaves with
  | balanced balanced => exact ScanState.exists_pairAll_of_balanced balanced .start
  | opening offset _ balanced inductionHypothesis =>
      obtain ⟨state, stateEq, stateOpened⟩ := inductionHypothesis
      obtain ⟨following, followingEq, followingOpened⟩ :=
        ScanState.exists_pairAll_of_balanced balanced (state.openGroup offset)
      rw [ScanState.openGroup_opened, stateOpened] at followingOpened
      refine ⟨following, ?_, followingOpened⟩
      rw [ScanState.pairAll_append, stateEq]
      exact followingEq

/-- The openings that are left open stand in the list in their order. -/
theorem reverse_sublist
    {parentheses : List Parenthesis} {opened : List Nat}
    (leaves : LeavesOpen parentheses opened) :
    opened.reverse.Sublist (parentheses.filterMap Parenthesis.openingOffset?) := by
  induction leaves with
  | balanced _ => exact List.nil_sublist _
  | opening offset _ _ inductionHypothesis =>
      rw [List.reverse_cons, List.filterMap_append,
        List.filterMap_cons_some (f := Parenthesis.openingOffset?) (b := offset) rfl]
      exact inductionHypothesis.append ((List.nil_sublist _).cons_cons offset)

theorem opening_mem
    {parentheses : List Parenthesis} {opened : List Nat}
    (leaves : LeavesOpen parentheses opened) {offset : Nat} (member : offset ∈ opened) :
    .opening offset ∈ parentheses := by
  rw [← Parenthesis.mem_filterMap_openingOffset?_iff]
  exact leaves.reverse_sublist.subset (List.mem_reverse.mpr member)

/-- What has no partner is left open. -/
theorem mem_of_not_matched
    {parentheses : List Parenthesis} {opened : List Nat}
    (leaves : LeavesOpen parentheses opened) {offset : Nat}
    (member : .opening offset ∈ parentheses)
    (alone : ∀ closing, ¬ Matched parentheses offset closing) : offset ∈ opened := by
  induction leaves with
  | balanced balanced =>
      obtain ⟨closing, matched⟩ := balanced.exists_partner.1 offset member
      exact absurd matched (alone closing)
  | @opening leading inside opened last _ balanced inductionHypothesis =>
      rw [List.mem_append, List.mem_cons] at member
      rcases member with inLeading | here | inInside
      · apply List.mem_cons_of_mem
        apply inductionHypothesis inLeading
        intro closing matched
        exact alone closing (matched.append [] _)
      · cases here
        exact List.mem_cons_self
      · obtain ⟨closing, matched⟩ := balanced.exists_partner.1 offset inInside
        have moved := matched.append (leading ++ [.opening last]) []
        exact absurd (by simpa using moved) (alone closing)

/-- What is left open has no partner: a matched parenthesis is no longer open when its
partner has been paired, and it is not opened again. -/
theorem not_matched
    {parentheses : List Parenthesis} {opened : List Nat}
    (leaves : LeavesOpen parentheses opened) (distinct : parentheses.Nodup) {offset : Nat}
    (member : offset ∈ opened) (closing : Nat) : ¬ Matched parentheses offset closing := by
  rintro ⟨leading, inside, trailing, rfl, balanced⟩
  obtain ⟨following, paired, rfl⟩ := leaves.exists_pairAll
  obtain ⟨state, before, whole⟩ := ScanState.pairAll_append_eq_ok_iff.mp paired
  obtain ⟨filled, filledEq, filledOpened⟩ :=
    ScanState.exists_pairAll_of_balanced balanced (state.openGroup offset)
  obtain ⟨closed, closedEq, closedOpened⟩ := ScanState.exists_closeGroup filledOpened closing
  change (state.openGroup offset).pairAll (inside ++ .closing closing :: trailing) = _ at whole
  rw [ScanState.pairAll_append, filledEq] at whole
  change (filled.closeGroup closing).bind _ = _ at whole
  rw [closedEq] at whole
  change closed.pairAll trailing = _ at whole
  have notTwice : .opening offset ∉ leading ∧ .opening offset ∉ trailing := by
    simp only [List.nodup_append, List.nodup_cons, List.mem_append, List.mem_cons] at distinct
    grind
  rcases ScanState.opened_of_pairAll whole member with earlier | later
  · rw [closedOpened] at earlier
    rcases ScanState.opened_of_pairAll before earlier with none | earlier
    · cases none
    · exact notTwice.1 earlier
  · exact notTwice.2 later

end LeavesOpen

/-- Parentheses leave some openings open, or pair up until a closing one has no
partner. -/
theorem leavesOpen_or_stray (parentheses : List Parenthesis) :
    (∃ opened, LeavesOpen parentheses opened) ∨
      ∃ leading closing trailing, parentheses = leading ++ .closing closing :: trailing ∧
        Balanced leading := by
  -- The end of the list decides: what comes before it has been read already.
  induction parentheses using List.reverseRecOn with
  | nil => exact .inl ⟨[], .balanced .nil⟩
  | append_singleton parentheses last inductionHypothesis =>
      rcases inductionHypothesis with ⟨opened, leaves⟩ | ⟨leading, closing, trailing, rfl, balanced⟩
      · cases last with
        | opening offset => exact .inl ⟨offset :: opened, .opening offset leaves .nil⟩
        | closing offset =>
            cases opened with
            | cons innermost opened => exact .inl ⟨opened, leaves.append_closing offset⟩
            | nil => exact .inr ⟨parentheses, offset, [], rfl, leaves.balanced_of_nil⟩
      · exact .inr ⟨leading, closing, trailing ++ [last], by simp, balanced⟩

/-! ## Scans -/

theorem scanPattern_of_leavesOpen
    {pattern : Text} {innermost : Nat} {opened : List Nat}
    (leaves : LeavesOpen pattern.parentheses (innermost :: opened)) :
    scanPattern pattern = .error (.unclosedGroup innermost) := by
  obtain ⟨following, paired, openedEq⟩ := leaves.exists_pairAll
  rw [scanPattern_eq_pairAll, paired]
  show following.finish = _
  rw [ScanState.finish, openedEq]

/-- A pattern whose parentheses pair up is derived. -/
theorem exists_derives_of_balanced
    {pattern : Text} (balanced : Balanced pattern.parentheses) :
    ∃ outline, Derives pattern outline [] := by
  obtain ⟨following, paired, openedEq⟩ := ScanState.exists_pairAll_of_balanced balanced .start
  obtain ⟨outline, rest, derived, ⟨-, rfl⟩ | ⟨inside, -⟩⟩ :=
    exists_derives_of_pairAll pattern paired openedEq
  · exact ⟨outline, derived⟩
  · exact absurd rfl inside

theorem scanPattern_of_stray
    {pattern : Text} {leading trailing : List Parenthesis} {closing : Nat}
    (split : pattern.parentheses = leading ++ .closing closing :: trailing)
    (balanced : Balanced leading) :
    scanPattern pattern = .error (.unmatchedClose closing) := by
  obtain ⟨following, paired, openedEq⟩ := ScanState.exists_pairAll_of_balanced balanced .start
  rw [scanPattern_eq_pairAll, split, ScanState.pairAll_append, paired]
  show ((following.closeGroup closing).bind _).bind _ = _
  rw [ScanState.closeGroup, openedEq]
  rfl

/-! ## Parentheses without a partner -/

namespace Text

/-- A closing parenthesis has no open partner when it is read. -/
def IsStray (pattern : Text) (closing : Nat) : Prop :=
  .closing closing ∈ pattern.parentheses ∧ ∀ opening, ¬ pattern.Encloses opening closing

/-- An opening parenthesis is never closed. -/
def IsUnclosed (pattern : Text) (opening : Nat) : Prop :=
  .opening opening ∈ pattern.parentheses ∧ ∀ closing, ¬ pattern.Encloses opening closing

theorem parentheses_pairwise (pattern : Text) :
    pattern.parentheses.Pairwise fun first second => first.offset < second.offset :=
  Place.parentheses_pairwise .outside 0 pattern

theorem parentheses_nodup (pattern : Text) : pattern.parentheses.Nodup := by
  refine pattern.parentheses_pairwise.imp ?_
  rintro earlier later ordered rfl
  exact Nat.lt_irrefl _ ordered

/-- A parenthesis stands at one place of a pattern only. -/
theorem parentheses_split_unique
    {pattern : Text} {parenthesis : Parenthesis}
    {before after front back : List Parenthesis}
    (first : pattern.parentheses = before ++ parenthesis :: after)
    (second : pattern.parentheses = front ++ parenthesis :: back) :
    before = front ∧ after = back := by
  have distinct := pattern.parentheses_nodup
  rw [first, List.nodup_append, List.nodup_cons] at distinct
  obtain ⟨-, ⟨notAfter, -⟩, disjoint⟩ := distinct
  have notBefore : parenthesis ∉ before := by
    intro member
    exact disjoint parenthesis member parenthesis List.mem_cons_self rfl
  rw [first] at second
  obtain ⟨beforeEq, -, afterEq⟩ :=
    (List.append_cons_inj_of_notMem notBefore notAfter).mp second
  exact ⟨beforeEq, afterEq⟩

/-- A parenthesis at a lower offset comes before. -/
theorem mem_before_of_offset_lt
    {pattern : Text} {before after : List Parenthesis} {parenthesis other : Parenthesis}
    (split : pattern.parentheses = before ++ parenthesis :: after)
    (member : other ∈ pattern.parentheses) (lower : other.offset < parenthesis.offset) :
    other ∈ before := by
  have ordered := pattern.parentheses_pairwise
  rw [split, List.pairwise_append, List.pairwise_cons] at ordered
  rw [split, List.mem_append, List.mem_cons] at member
  rcases member with inBefore | rfl | inAfter
  · exact inBefore
  · exact absurd lower (Nat.lt_irrefl _)
  · have higher := ordered.2.1.1 other inAfter
    omega

/-- The partner of an opening parenthesis is unique. -/
theorem Encloses.closing_unique
    {pattern : Text} {opening first second : Nat}
    (firstEncloses : pattern.Encloses opening first)
    (secondEncloses : pattern.Encloses opening second) : first = second := by
  obtain ⟨leading, inside, trailing, split, balanced⟩ := firstEncloses
  obtain ⟨otherLeading, otherInside, otherTrailing, otherSplit, otherBalanced⟩ := secondEncloses
  obtain ⟨-, same⟩ := parentheses_split_unique split otherSplit
  -- If one inside were shorter, the other would go on with its closing parenthesis.
  rcases List.append_eq_append_iff.mp same with ⟨gap, insideEq, closingEq⟩ |
    ⟨gap, insideEq, closingEq⟩
  · cases gap with
    | nil => exact Parenthesis.closing.inj (List.cons.inj closingEq).1
    | cons parenthesis gap =>
        obtain ⟨rfl, -⟩ := List.cons.inj closingEq
        rw [insideEq] at otherBalanced
        exact absurd otherBalanced (balanced.not_append_closing first gap)
  · cases gap with
    | nil => exact (Parenthesis.closing.inj (List.cons.inj closingEq).1).symm
    | cons parenthesis gap =>
        obtain ⟨rfl, -⟩ := List.cons.inj closingEq
        rw [insideEq] at balanced
        exact absurd balanced (otherBalanced.not_append_closing second gap)

/-- The first closing parenthesis without a partner is the one behind a balanced
list. -/
theorem isLeast_isStray
    {pattern : Text} {leading trailing : List Parenthesis} {closing : Nat}
    (split : pattern.parentheses = leading ++ .closing closing :: trailing)
    (balanced : Balanced leading) :
    IsLeast { stray | pattern.IsStray stray } closing := by
  refine ⟨⟨by simp [split], ?_⟩, ?_⟩
  · rintro opening ⟨front, inside, back, other, insideBalanced⟩
    have moved : pattern.parentheses =
        (front ++ .opening opening :: inside) ++ .closing closing :: back := by
      simp [other]
    obtain ⟨leadingEq, -⟩ := parentheses_split_unique split moved
    rw [leadingEq] at balanced
    exact insideBalanced.not_opening_append opening front balanced
  · rintro stray ⟨member, alone⟩
    by_contra lower
    have inLeading := mem_before_of_offset_lt split member (Nat.lt_of_not_le lower)
    obtain ⟨opening, matched⟩ := balanced.exists_partner.2 stray inLeading
    have enclosed := matched.append [] (.closing closing :: trailing)
    rw [List.nil_append, ← split] at enclosed
    exact alone opening enclosed

theorem not_isStray_of_leavesOpen
    {pattern : Text} {opened : List Nat} (leaves : LeavesOpen pattern.parentheses opened)
    (closing : Nat) : ¬ pattern.IsStray closing := by
  rintro ⟨member, alone⟩
  obtain ⟨opening, matched⟩ := leaves.exists_opening member
  exact alone opening matched

/-- The opening parentheses without a partner are those that are left open. -/
theorem isUnclosed_iff
    {pattern : Text} {opened : List Nat} (leaves : LeavesOpen pattern.parentheses opened)
    {opening : Nat} : pattern.IsUnclosed opening ↔ opening ∈ opened := by
  constructor
  · rintro ⟨member, alone⟩
    exact leaves.mem_of_not_matched member alone
  · intro member
    exact ⟨leaves.opening_mem member, leaves.not_matched pattern.parentheses_nodup member⟩

/-- The last opening parenthesis without a partner is the innermost one that is left
open. -/
theorem isGreatest_isUnclosed
    {pattern : Text} {innermost : Nat} {opened : List Nat}
    (leaves : LeavesOpen pattern.parentheses (innermost :: opened)) :
    IsGreatest { unclosed | pattern.IsUnclosed unclosed } innermost := by
  have increasing := pattern.openings_pairwise.sublist leaves.reverse_sublist
  rw [List.pairwise_reverse, List.pairwise_cons] at increasing
  refine ⟨(isUnclosed_iff leaves).mpr List.mem_cons_self, ?_⟩
  intro unclosed isUnclosed
  rcases List.mem_cons.mp ((isUnclosed_iff leaves).mp isUnclosed) with rfl | outer
  · exact Nat.le_refl unclosed
  · exact Nat.le_of_lt (increasing.1 unclosed outer)

theorem not_isUnclosed_of_balanced
    {pattern : Text} (balanced : Balanced pattern.parentheses) (opening : Nat) :
    ¬ pattern.IsUnclosed opening := by
  rw [isUnclosed_iff (.balanced balanced)]
  exact List.not_mem_nil

end Text

end NamedCapture
