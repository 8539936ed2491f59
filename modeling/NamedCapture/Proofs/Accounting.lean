import NamedCapture.Proofs.Pairing

/-!
Contract: what the pairing has on record once it has read some parentheses.

The open groups are the openings that have no partner so far. The inner list starts
anew with every outermost group and is handed over when that group is closed. The
finished groups stand in order, apart from each other and before every open one.

Owns:
- the account that a state gives of the parentheses read;
- the steps that keep it: an opening and a closing parenthesis.

Does not own: which parentheses of a pattern have been read.
-/

namespace NamedCapture.ScanState

/-- A state is what pairing these parentheses leads to. -/
structure AccountsFor (state : ScanState) (read : List Parenthesis) : Prop where
  leaves : LeavesOpen read state.opened
  idle : state.opened = [] → state.inner = []
  inside : ∀ outermost, state.opened.getLast? = some outermost →
    state.inner = (read.filterMap Parenthesis.openingOffset?).filter (outermost < ·)
  apart : state.groups.Pairwise fun first second => first.span.stop ≤ second.span.start
  finished : ∀ group ∈ state.groups, group.span.start < group.span.stop ∧
    ∃ closing, .closing closing ∈ read ∧ group.span.stop = closing + 1
  behind : ∀ group ∈ state.groups, ∀ offset ∈ state.opened, group.span.stop ≤ offset

theorem accountsFor_start : start.AccountsFor [] where
  leaves := .balanced .nil
  idle _ := rfl
  inside _ none := by cases none
  apart := .nil
  finished _ none := by cases none
  behind _ none := by cases none

namespace AccountsFor

variable {state : ScanState} {read : List Parenthesis}

/-- What is open was opened before the next parenthesis. -/
theorem lt_of_mem_opened
    (accounts : state.AccountsFor read) {position : Nat}
    (later : ∀ parenthesis ∈ read, parenthesis.offset < position) :
    ∀ offset ∈ state.opened, offset < position := by
  intro offset member
  exact later _ (accounts.leaves.opening_mem member)

/-- A finished group ends before the next parenthesis. -/
theorem stop_le_of_mem_groups
    (accounts : state.AccountsFor read) {position : Nat}
    (later : ∀ parenthesis ∈ read, parenthesis.offset < position) :
    ∀ group ∈ state.groups, group.span.stop ≤ position := by
  intro group member
  obtain ⟨-, closing, closingMember, stopEq⟩ := accounts.finished group member
  have bound : closing < position := later _ closingMember
  omega

theorem finished_append (accounts : state.AccountsFor read) (last : Parenthesis) :
    ∀ group ∈ state.groups, group.span.start < group.span.stop ∧
      ∃ closing, .closing closing ∈ read ++ [last] ∧ group.span.stop = closing + 1 := by
  intro group member
  obtain ⟨proper, closing, closingMember, stopEq⟩ := accounts.finished group member
  exact ⟨proper, closing, List.mem_append_left _ closingMember, stopEq⟩

theorem openGroup
    (accounts : state.AccountsFor read) {position : Nat}
    (later : ∀ parenthesis ∈ read, parenthesis.offset < position) :
    (state.openGroup position).AccountsFor (read ++ [.opening position]) := by
  have openings :
      (read ++ [Parenthesis.opening position]).filterMap Parenthesis.openingOffset? =
        read.filterMap Parenthesis.openingOffset? ++ [position] := by
    simp [Parenthesis.openingOffset?]
  refine {
    leaves := .opening position accounts.leaves .nil
    idle := ?idle
    inside := ?inside
    apart := accounts.apart
    finished := accounts.finished_append _
    behind := ?behind }
  case idle =>
    intro closed
    cases closed
  case inside =>
    intro outermost last
    rw [openings, List.filter_append]
    rw [openGroup_opened] at last
    cases openedEq : state.opened with
    | nil =>
        -- Nothing that was read stands behind a new outermost group.
        rw [openedEq, List.getLast?_singleton, Option.some.injEq] at last
        subst last
        have none : (read.filterMap Parenthesis.openingOffset?).filter (position < ·) = [] := by
          rw [List.filter_eq_nil_iff]
          intro offset member
          have bound : offset < position :=
            later _ (Parenthesis.mem_filterMap_openingOffset?_iff.mp member)
          simp only [decide_eq_true_eq]
          omega
        rw [none]
        simp [ScanState.openGroup, openedEq, accounts.idle openedEq]
    | cons innermost remaining =>
        rw [openedEq, List.getLast?_cons_cons, ← openedEq] at last
        have bound := accounts.lt_of_mem_opened later outermost (List.mem_of_getLast? last)
        rw [← accounts.inside outermost last]
        simp [ScanState.openGroup, openedEq, bound]
  case behind =>
    intro group member offset isOpen
    rw [openGroup_opened, List.mem_cons] at isOpen
    rcases isOpen with rfl | before
    · exact accounts.stop_le_of_mem_groups later group member
    · exact accounts.behind group member offset before

/-- Closing the outermost group finishes it: it stands behind the finished ones. -/
theorem closeOutermost
    (accounts : state.AccountsFor read) {position outermost : Nat}
    (later : ∀ parenthesis ∈ read, parenthesis.offset < position)
    (openedEq : state.opened = [outermost]) :
    AccountsFor ⟨state.mode, [], [], state.groups ++ [⟨⟨outermost, position + 1⟩, state.inner⟩]⟩
      (read ++ [.closing position]) := by
  have leaves := accounts.leaves
  have behind := accounts.behind
  have started := accounts.lt_of_mem_opened later outermost (by simp [openedEq])
  rw [openedEq] at leaves behind
  refine {
    leaves := leaves.append_closing position
    idle := fun _ => rfl
    inside := ?inside
    apart := ?apart
    finished := ?finished
    behind := ?behind }
  case inside => simp
  case apart =>
    rw [List.pairwise_append]
    refine ⟨accounts.apart, List.pairwise_singleton .., ?_⟩
    intro group member last lastEq
    rw [List.mem_singleton] at lastEq
    subst lastEq
    exact behind group member outermost (by simp)
  case finished =>
    intro group member
    rw [List.mem_append, List.mem_singleton] at member
    rcases member with before | rfl
    · exact accounts.finished_append _ group before
    · refine ⟨?_, position, by simp, rfl⟩
      show outermost < position + 1
      omega
  case behind => simp

/-- Closing a group inside another one finishes none, and the outermost one stays. -/
theorem closeNested
    (accounts : state.AccountsFor read) {innermost second : Nat} {remaining : List Nat}
    (openedEq : state.opened = innermost :: second :: remaining) (position : Nat) :
    AccountsFor ⟨state.mode, second :: remaining, state.inner, state.groups⟩
      (read ++ [.closing position]) := by
  have leaves := accounts.leaves
  have behind := accounts.behind
  have inside := accounts.inside
  rw [openedEq] at leaves behind inside
  rw [List.getLast?_cons_cons] at inside
  refine {
    leaves := leaves.append_closing position
    idle := ?idle
    inside := ?inside
    apart := accounts.apart
    finished := accounts.finished_append _
    behind := ?behind }
  case idle => simp
  case inside =>
    have openings :
        (read ++ [Parenthesis.closing position]).filterMap Parenthesis.openingOffset? =
          read.filterMap Parenthesis.openingOffset? := by
      simp [Parenthesis.openingOffset?]
    rw [openings]
    exact inside
  case behind =>
    intro group member offset isOpen
    exact behind group member offset (List.mem_cons_of_mem innermost isOpen)

theorem closeGroup
    (accounts : state.AccountsFor read) {position : Nat}
    (later : ∀ parenthesis ∈ read, parenthesis.offset < position)
    {following : ScanState} (closed : state.closeGroup position = .ok following) :
    following.AccountsFor (read ++ [.closing position]) := by
  unfold ScanState.closeGroup at closed
  split at closed
  case h_1 => cases closed
  case h_2 outermost openedEq =>
    cases closed
    exact accounts.closeOutermost later openedEq
  case h_3 innermost remaining notLast openedEq =>
    cases closed
    cases remaining with
    | nil => exact absurd rfl notLast
    | cons second remaining => exact accounts.closeNested openedEq position

/-- Pairing parentheses in the order of their offsets leads to a state that accounts
for all of them. -/
theorem of_pairAll
    (ordered : read.Pairwise fun first second => first.offset < second.offset)
    (paired : start.pairAll read = .ok state) : state.AccountsFor read := by
  -- The step is at the end of the list, where the last parenthesis has been read.
  induction read using List.reverseRecOn generalizing state with
  | nil =>
      cases paired
      exact accountsFor_start
  | append_singleton read last inductionHypothesis =>
      rw [List.pairwise_append] at ordered
      have later : ∀ parenthesis ∈ read, parenthesis.offset < last.offset :=
        fun parenthesis member => ordered.2.2 parenthesis member last List.mem_cons_self
      obtain ⟨middle, before, stepped⟩ := pairAll_append_eq_ok_iff.mp paired
      have accounts := inductionHypothesis ordered.1 before
      rw [pairAll_singleton] at stepped
      cases last with
      | opening offset =>
          cases stepped
          exact accounts.openGroup later
      | closing offset => exact accounts.closeGroup later stepped

end AccountsFor

end NamedCapture.ScanState
