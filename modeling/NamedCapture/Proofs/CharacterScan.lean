import NamedCapture.Proofs.Scanning
import NamedCapture.Proofs.Grammar

/-!
Contract: the pass over the bytes of a pattern agrees with a scan that never
looks inside a character.

The reference takes whole units of text: an escape with the character behind it,
a class opening with the literal bracket it may carry, or one character. Its
offsets are sums of UTF-8 lengths. It shares neither reading modes nor marks
with the pass over bytes, and it agrees with that pass on every pattern, in the
groups and in the error.

Owns:
- the scan over characters;
- its agreement with the structural parentheses, one lemma for each unit;
- its agreement with the pass over bytes.

Does not own: how the pass over bytes gets back in step after an escaped
multibyte character, which belongs to the agreement of modes with places.
-/

namespace NamedCapture

/-! ## The scan over characters -/

/-- The groups that enclose a point of a pattern: none, or an outermost one, the
ones nested in it that are still open, innermost first, and the offsets of all
groups opened inside it so far. -/
inductive Enclosure where
  | none
  | within (outermost : Nat) (nested inner : List Nat)
deriving DecidableEq, Repr

namespace Enclosure

/-- What encloses the text behind an opening parenthesis. -/
def enter (enclosure : Enclosure) (offset : Nat) : Enclosure :=
  match enclosure with
  | .none => .within offset [] []
  | .within outermost nested inner =>
      .within outermost (offset :: nested) (inner ++ [offset])

/-- A pattern may end where nothing encloses it. Otherwise the innermost open
group is the one at fault. -/
def finish : Enclosure → Except PatternError (List ScannedGroup)
  | .none => .ok []
  | .within outermost [] _ => .error (.unclosedGroup outermost)
  | .within _ (innermost :: _) _ => .error (.unclosedGroup innermost)

end Enclosure

namespace Text

/-- The outermost groups that are finished in a text, which starts at an offset
in as many open classes as `depth` says.

An escape takes one whole character. A closing bracket is literal directly
after the bracket that opens a class or after the caret that negates it, and
wherever no class is open. -/
def groupsFrom (offset depth : Nat) (enclosure : Enclosure) :
    Text → Except PatternError (List ScannedGroup)
  | [] => enclosure.finish
  | ['\\'] => enclosure.finish
  | '\\' :: escaped :: rest =>
      groupsFrom (offset + 1 + escaped.utf8Size) depth enclosure rest
  | '[' :: '^' :: ']' :: rest => groupsFrom (offset + 3) (depth + 1) enclosure rest
  | '[' :: '^' :: rest => groupsFrom (offset + 2) (depth + 1) enclosure rest
  | '[' :: ']' :: rest => groupsFrom (offset + 2) (depth + 1) enclosure rest
  | '[' :: rest => groupsFrom (offset + 1) (depth + 1) enclosure rest
  | ']' :: rest => groupsFrom (offset + 1) (depth - 1) enclosure rest
  | '(' :: rest =>
      if depth = 0 then groupsFrom (offset + 1) 0 (enclosure.enter offset) rest
      else groupsFrom (offset + 1) depth enclosure rest
  | ')' :: rest =>
      if depth = 0 then
        match enclosure with
        | .none => .error (.unmatchedClose offset)
        | .within outermost [] inner =>
            (groupsFrom (offset + 1) 0 .none rest).map
              (⟨⟨outermost, offset + 1⟩, inner⟩ :: ·)
        | .within outermost (_ :: nested) inner =>
            groupsFrom (offset + 1) 0 (.within outermost nested inner) rest
      else groupsFrom (offset + 1) depth enclosure rest
  | character :: rest =>
      groupsFrom (offset + character.utf8Size) depth enclosure rest

/-- The outermost groups of a pattern with the groups opened inside each, read
character by character. -/
def groups (pattern : Text) : Except PatternError (List ScannedGroup) :=
  groupsFrom 0 0 .none pattern

/-- An escape takes the whole character behind it, outside and in a class. -/
example :
    groups "\\é(ü)[^]\\é)](x(€))".toList =
      .ok [⟨⟨3, 7⟩, []⟩, ⟨⟨15, 23⟩, [17]⟩] := rfl

end Text

/-! ## Units of text and structural parentheses -/

namespace Place

/-- Where a unit of text starts: outside, or past the start of a class. -/
def atDepth : Nat → Place
  | 0 => .outside
  | depth + 1 => .inside (depth + 1)

theorem leave_succ (depth : Nat) : leave (depth + 1) = atDepth depth := by
  cases depth <;> rfl

theorem parentheses_atDepth_escape
    (depth offset : Nat) (escaped : Char) (rest : Text) :
    (atDepth depth).parentheses offset ('\\' :: escaped :: rest) =
      (atDepth depth).parentheses (offset + 1 + escaped.utf8Size) rest := by
  cases depth <;> rfl

/-- A class is opened together with the caret and the closing bracket it may
start with. -/
theorem parentheses_atDepth_classOpening
    (depth offset : Nat) (opening : Text) {contents : Text}
    (opens : Text.classContents (opening ++ contents) = contents) :
    (atDepth depth).parentheses offset ('[' :: (opening ++ contents)) =
      (atDepth (depth + 1)).parentheses (offset + 1 + opening.byteLength) contents := by
  have opened :
      (atDepth depth).parentheses offset ('[' :: (opening ++ contents)) =
        (classStart (depth + 1)).parentheses (offset + 1) (opening ++ contents) := by
    cases depth <;> rfl
  have read :
      (classStart (depth + 1)).parentheses (offset + 1) (opening ++ contents) =
        (inside (depth + 1)).parentheses (offset + 1 + opening.byteLength)
          (Text.classContents (opening ++ contents)) := by
    apply parentheses_classStart
    rw [opens, Text.byteLength_append]
    omega
  rw [opened, read, opens]
  rfl

theorem parentheses_atDepth_closeBracket (depth offset : Nat) (rest : Text) :
    (atDepth depth).parentheses offset (']' :: rest) =
      (atDepth (depth - 1)).parentheses (offset + 1) rest := by
  cases depth with
  | zero => rfl
  | succ depth =>
      show (leave (depth + 1)).parentheses (offset + 1) rest = _
      rw [leave_succ]
      rfl

/-- A character of a class that neither escapes nor is a bracket is passed, be it
a parenthesis or not. -/
theorem parentheses_atDepth_member
    {depth : Nat} (deep : depth ≠ 0) (offset : Nat) {character : Char} (rest : Text)
    (notEscape : character ≠ '\\') (notOpen : character ≠ '[')
    (notClose : character ≠ ']') :
    (atDepth depth).parentheses offset (character :: rest) =
      (atDepth depth).parentheses (offset + character.utf8Size) rest := by
  cases depth with
  | zero => contradiction
  | succ depth =>
      show (inside (depth + 1)).parentheses offset (character :: rest) = _
      rw [parentheses_cons_of_ne_outside (by simp), next, nextInside,
        if_neg notEscape, if_neg notOpen, if_neg notClose]
      rfl

/-- A character that is none of the six special ones is passed everywhere. -/
theorem parentheses_atDepth_ordinary
    (depth offset : Nat) {character : Char} (rest : Text)
    (notEscape : character ≠ '\\') (notOpen : character ≠ '[')
    (notClose : character ≠ ']') (notOpening : character ≠ '(')
    (notClosing : character ≠ ')') :
    (atDepth depth).parentheses offset (character :: rest) =
      (atDepth depth).parentheses (offset + character.utf8Size) rest := by
  by_cases outermost : depth = 0
  · subst outermost
    show outside.parentheses offset (character :: rest) = _
    rw [parentheses, parenthesis?, if_pos rfl, if_neg notOpening, if_neg notClosing,
      next_outside notEscape notOpen]
    rfl
  · exact parentheses_atDepth_member outermost offset rest notEscape notOpen notClose

end Place

/-! ## Agreement -/

namespace Enclosure

/-- The offsets of the open groups, innermost first. -/
def opened : Enclosure → List Nat
  | .none => []
  | .within outermost nested _ => nested ++ [outermost]

def inner : Enclosure → List Nat
  | .none => []
  | .within _ _ inner => inner

/-- What the pass over bytes carries outside every class, once some groups are
finished. -/
def state (enclosure : Enclosure) (finished : List ScannedGroup) : ScanState :=
  ⟨.plain, enclosure.opened, enclosure.inner, finished⟩

theorem finish_state (enclosure : Enclosure) (finished : List ScannedGroup) :
    (enclosure.state finished).finish = enclosure.finish.map (finished ++ ·) := by
  cases enclosure with
  | none => simp [state, opened, ScanState.finish, finish, Except.map]
  | within outermost nested inner => cases nested <;> rfl

theorem openGroup_state
    (enclosure : Enclosure) (finished : List ScannedGroup) (offset : Nat) :
    (enclosure.state finished).openGroup offset =
      (enclosure.enter offset).state finished := by
  cases enclosure with
  | none => rfl
  | within outermost nested inner => cases nested <;> rfl

theorem closeGroup_state_nested
    (outermost innermost : Nat) (nested inner : List Nat)
    (finished : List ScannedGroup) (offset : Nat) :
    ((within outermost (innermost :: nested) inner).state finished).closeGroup offset =
      .ok ((within outermost nested inner).state finished) := by
  cases nested <;> rfl

end Enclosure

/-- From any offset, depth and enclosure on, pairing the structural parentheses
yields what the scan over characters yields, behind the groups already
finished. -/
theorem Text.pairAll_parentheses_eq_groupsFrom
    (offset depth : Nat) (enclosure : Enclosure) (text : Text)
    (finished : List ScannedGroup) :
    ((enclosure.state finished).pairAll
        ((Place.atDepth depth).parentheses offset text)).bind ScanState.finish =
      (groupsFrom offset depth enclosure text).map (finished ++ ·) := by
  fun_induction groupsFrom offset depth enclosure text generalizing finished with
  | case1 offset depth enclosure =>
      exact enclosure.finish_state finished
  | case2 offset depth enclosure =>
      have noParenthesis : (Place.atDepth depth).parentheses offset ['\\'] = [] := by
        cases depth <;> rfl
      rw [noParenthesis]
      exact enclosure.finish_state finished
  | case3 offset depth enclosure escaped rest inductionHypothesis =>
      rw [Place.parentheses_atDepth_escape]
      exact inductionHypothesis finished
  | case4 offset depth enclosure rest inductionHypothesis =>
      have opened :
          (Place.atDepth depth).parentheses offset ('[' :: '^' :: ']' :: rest) =
            (Place.atDepth (depth + 1)).parentheses (offset + 3) rest :=
        Place.parentheses_atDepth_classOpening depth offset ['^', ']'] rfl
      rw [opened]
      exact inductionHypothesis finished
  | case5 offset depth enclosure rest noBracket inductionHypothesis =>
      have opened :
          (Place.atDepth depth).parentheses offset ('[' :: '^' :: rest) =
            (Place.atDepth (depth + 1)).parentheses (offset + 2) rest :=
        Place.parentheses_atDepth_classOpening depth offset ['^']
          (afterBracket_eq_self noBracket)
      rw [opened]
      exact inductionHypothesis finished
  | case6 offset depth enclosure rest inductionHypothesis =>
      have opened :
          (Place.atDepth depth).parentheses offset ('[' :: ']' :: rest) =
            (Place.atDepth (depth + 1)).parentheses (offset + 2) rest :=
        Place.parentheses_atDepth_classOpening depth offset [']'] rfl
      rw [opened]
      exact inductionHypothesis finished
  | case7 offset depth enclosure rest _ noCaret noBracket inductionHypothesis =>
      have contents : classContents rest = rest := by
        rw [classContents, afterCaret_eq_self noCaret, afterBracket_eq_self noBracket]
      have opened :
          (Place.atDepth depth).parentheses offset ('[' :: rest) =
            (Place.atDepth (depth + 1)).parentheses (offset + 1) rest :=
        Place.parentheses_atDepth_classOpening depth offset [] contents
      rw [opened]
      exact inductionHypothesis finished
  | case8 offset depth enclosure rest inductionHypothesis =>
      rw [Place.parentheses_atDepth_closeBracket]
      exact inductionHypothesis finished
  | case9 offset enclosure rest inductionHypothesis =>
      show (((enclosure.state finished).openGroup offset).pairAll
        (Place.outside.parentheses (offset + 1) rest)).bind ScanState.finish = _
      rw [Enclosure.openGroup_state]
      exact inductionHypothesis finished
  | case10 offset depth enclosure rest deep inductionHypothesis =>
      rw [Place.parentheses_atDepth_member deep offset rest]
      · exact inductionHypothesis finished
      all_goals decide
  | case11 offset rest => rfl
  | case12 offset rest outermost inner inductionHypothesis =>
      have closed := inductionHypothesis (finished ++ [⟨⟨outermost, offset + 1⟩, inner⟩])
      show ((Enclosure.none.state
        (finished ++ [⟨⟨outermost, offset + 1⟩, inner⟩])).pairAll
          (Place.outside.parentheses (offset + 1) rest)).bind ScanState.finish = _
      rw [show Place.outside = Place.atDepth 0 from rfl, closed]
      cases groupsFrom (offset + 1) 0 Enclosure.none rest with
      | error error => rfl
      | ok later => simp [Except.map]
  | case13 offset rest outermost innermost nested inner inductionHypothesis =>
      show ((((Enclosure.within outermost (innermost :: nested) inner).state
        finished).closeGroup offset).bind fun following => following.pairAll
          (Place.outside.parentheses (offset + 1) rest)).bind ScanState.finish = _
      rw [Enclosure.closeGroup_state_nested]
      exact inductionHypothesis finished
  | case14 offset depth enclosure rest deep inductionHypothesis =>
      rw [Place.parentheses_atDepth_member deep offset rest]
      · exact inductionHypothesis finished
      all_goals decide
  | case15 offset depth enclosure character rest loneBackslash escape _ _ _ notOpen
      notClose notOpening notClosing inductionHypothesis =>
      have notEscape : character ≠ '\\' := by
        intro backslash
        cases rest with
        | nil => exact loneBackslash backslash rfl
        | cons escaped rest => exact escape escaped rest backslash rfl
      rw [Place.parentheses_atDepth_ordinary depth offset rest notEscape notOpen notClose
        notOpening notClosing]
      exact inductionHypothesis finished

/-- The pass over the bytes of a pattern finds exactly what the scan over its
characters finds: the same groups, or the same error at the same offset. -/
theorem scanPattern_eq_groups (pattern : Text) : scanPattern pattern = pattern.groups := by
  have agreed :
      (ScanState.start.pairAll pattern.parentheses).bind ScanState.finish =
        pattern.groups.map ([] ++ ·) :=
    Text.pairAll_parentheses_eq_groupsFrom 0 0 .none pattern []
  rw [scanPattern_eq_pairAll, agreed]
  cases pattern.groups <;> rfl

end NamedCapture
