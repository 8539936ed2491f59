import NamedCapture.Proofs.Scanning

/-!
Contract: which character classes are open, and what the scan knows about them.

The scan counts the open classes and remembers where a closing bracket of the
innermost one would be literal, but not where any class was opened. Reading the
characters one by one yields these brackets, and every byte keeps the two in step.

Owns:
- the brackets of the open classes after a text;
- the invariant of a scan mode: its depth, and the offset it has pending.

Does not own: the parentheses found outside of classes.
-/

namespace NamedCapture

/-! ## Brackets of open classes -/

/-- The open classes after a character at an offset, innermost first: one is opened
where the depth grows, and the innermost one is closed where it shrinks. -/
def trackClass (offset before after : Nat) (classes : List Nat) : List Nat :=
  if before < after then offset :: classes
  else if after < before then classes.tail
  else classes

@[simp] theorem trackClass_self (offset depth : Nat) (classes : List Nat) :
    trackClass offset depth depth classes = classes := by
  simp [trackClass]

@[simp] theorem trackClass_succ (offset depth : Nat) (classes : List Nat) :
    trackClass offset depth (depth + 1) classes = offset :: classes := by
  simp [trackClass]

theorem trackClass_pred
    {depth : Nat} (deep : 1 ≤ depth) (offset : Nat) (classes : List Nat) :
    trackClass offset depth (depth - 1) classes = classes.tail := by
  unfold trackClass
  rw [if_neg (by omega), if_pos (by omega)]

namespace Place

/-- How many classes are open at a place. -/
def depth : Place → Nat
  | .outside => 0
  | .escaped => 0
  | .classStart depth => depth
  | .classNegated depth => depth
  | .inside depth => depth
  | .escapedInside depth => depth

/-- The brackets of the classes that are open after a text, from a place on. -/
def openClasses (place : Place) (offset : Nat) (classes : List Nat) : Text → List Nat
  | [] => classes
  | character :: rest =>
      (place.next character).openClasses (offset + character.utf8Size)
        (trackClass offset place.depth (place.next character).depth classes) rest

theorem openClasses_concat
    (place : Place) (offset : Nat) (classes : List Nat) (text : Text) (character : Char) :
    place.openClasses offset classes (text ++ [character]) =
      trackClass (offset + text.byteLength) (place.after text).depth
        ((place.after text).next character).depth
        (place.openClasses offset classes text) := by
  induction text generalizing place offset classes with
  | nil => rfl
  | cons first text inductionHypothesis =>
      rw [List.cons_append, openClasses, openClasses, inductionHypothesis,
        Text.byteLength_cons, ← Nat.add_assoc]
      rfl

end Place

/-- The brackets of the classes that are open at the end of a text, innermost
first. -/
def Text.openClasses (text : Text) : List Nat :=
  Place.outside.openClasses 0 [] text

theorem Text.openClasses_concat (text : Text) (character : Char) :
    Text.openClasses (text ++ [character]) =
      trackClass text.byteLength (Place.outside.after text).depth
        ((Place.outside.after text).next character).depth text.openClasses := by
  rw [openClasses, Place.openClasses_concat, Nat.zero_add]
  rfl

/-! ## Modes -/

namespace ScanMode

/-- The depth that a mode counts, if it reads a class. -/
def classDepth? : ScanMode → Option Nat
  | .plain => none
  | .escaped => none
  | .inClass depth _ => some depth
  | .escapedInClass depth => some depth

def depth (mode : ScanMode) : Nat :=
  mode.classDepth?.getD 0

theorem depth_eq_of_agrees
    {place : Place} {position : Nat} {text : Text} {mode : ScanMode}
    (agrees : place.Agrees position text mode) : mode.depth = place.depth := by
  cases place with
  | inside depth =>
      obtain ⟨literalClose, rfl, -⟩ := agrees
      rfl
  | _ =>
      cases agrees
      rfl

/-- What a mode knows about the open classes before the byte at a position. -/
structure Tracks
    (mode : ScanMode) (marks : List Mark) (position : Nat) (classes : List Nat) : Prop where
  deep : ∀ depth, mode.classDepth? = some depth → 1 ≤ depth
  counted : classes.length = mode.depth
  brackets : ∀ bracket ∈ classes, marks[bracket]? = some .openBracket
  pending : ∀ depth close, mode = .inClass depth (some close) →
    ∃ bracket, classes.head? = some bracket ∧
      close = ScanState.literalClosePosition bracket marks[bracket + 1]? ∧
      (close < position → marks[close]? ≠ some .closeBracket)

theorem tracks_start (marks : List Mark) : ScanState.start.mode.Tracks marks 0 [] where
  deep _ none := by cases none
  counted := rfl
  brackets _ none := by cases none
  pending _ _ none := by cases none

namespace Tracks

variable {mode : ScanMode} {marks : List Mark} {position : Nat} {classes : List Nat}

/-- A class stays open, or none is, and no offset is pending. -/
theorem of_classDepth?_eq
    (tracks : mode.Tracks marks position classes) (other : ScanMode)
    (same : other.classDepth? = mode.classDepth?)
    (settled : ∀ depth close, other ≠ .inClass depth (some close)) :
    other.Tracks marks (position + 1) classes where
  deep depth found := tracks.deep depth (same.symm.trans found)
  counted := by rw [tracks.counted, depth, depth, same]
  brackets := tracks.brackets
  pending depth close pendingEq := absurd pendingEq (settled depth close)

/-- A pending offset is passed without a match. -/
theorem advance
    (tracks : mode.Tracks marks position classes) {mark : Mark}
    (read : marks[position]? = some mark) (different : mark ≠ .closeBracket) :
    mode.Tracks marks (position + 1) classes where
  deep := tracks.deep
  counted := tracks.counted
  brackets := tracks.brackets
  pending depth close pendingEq := by
    obtain ⟨bracket, innermost, closeEq, passed⟩ := tracks.pending depth close pendingEq
    refine ⟨bracket, innermost, closeEq, ?_⟩
    intro before
    rcases Nat.lt_succ_iff_lt_or_eq.mp before with earlier | rfl
    · exact passed earlier
    · rw [read, Ne, Option.some.injEq]
      exact different

/-- A bracket opens a class. -/
theorem opens
    (tracks : mode.Tracks marks position classes)
    (read : marks[position]? = some .openBracket) :
    (inClass (mode.depth + 1)
      (some (ScanState.literalClosePosition position marks[position + 1]?))).Tracks
        marks (position + 1) (position :: classes) where
  deep _ found := by
    cases found
    omega
  counted := by
    rw [List.length_cons, tracks.counted]
    rfl
  brackets bracket member := by
    rcases List.mem_cons.mp member with rfl | outer
    · exact read
    · exact tracks.brackets bracket outer
  pending _ close pendingEq := by
    cases pendingEq
    refine ⟨position, rfl, rfl, ?_⟩
    unfold ScanState.literalClosePosition
    split <;> omega

/-- A bracket closes the innermost class; the depth is no less than one before, so no
class is left at depth zero. -/
theorem closes
    {depth : Nat} {literalClose : Option Nat}
    (tracks : (inClass depth literalClose).Tracks marks position classes) :
    (if depth = 1 then plain else inClass (depth - 1) none).Tracks marks (position + 1)
      classes.tail := by
  have deep := tracks.deep depth rfl
  have counted : classes.length = depth := tracks.counted
  have brackets : ∀ bracket ∈ classes.tail, marks[bracket]? = some .openBracket :=
    fun bracket member => tracks.brackets bracket (List.mem_of_mem_tail member)
  split
  case isTrue outermost =>
    refine ⟨?_, ?_, brackets, ?_⟩
    · intro _ none
      cases none
    · rw [List.length_tail, counted, outermost]
      rfl
    · intro _ _ none
      cases none
  case isFalse nested =>
    refine ⟨?_, ?_, brackets, ?_⟩
    · intro _ found
      cases found
      omega
    · rw [List.length_tail, counted]
      rfl
    · intro _ _ none
      cases none

theorem depth_closes (depth : Nat) :
    (if depth = 1 then plain else inClass (depth - 1) none).depth = depth - 1 := by
  split
  case isTrue outermost =>
    rw [outermost]
    rfl
  case isFalse => rfl

/-- Every byte of a class keeps the mode in step. -/
theorem classMode
    {depth : Nat} {literalClose : Option Nat}
    (tracks : (inClass depth literalClose).Tracks marks position classes) {mark : Mark}
    (read : marks[position]? = some mark) :
    (ScanState.classMode depth literalClose position mark marks[position + 1]?).Tracks marks
      (position + 1)
      (trackClass position depth
        (ScanState.classMode depth literalClose position mark marks[position + 1]?).depth
        classes) := by
  cases mark with
  | backslash =>
      show (escapedInClass depth).Tracks _ _ (trackClass position depth depth classes)
      rw [trackClass_self]
      exact tracks.of_classDepth?_eq (escapedInClass depth) rfl (by simp)
  | openBracket =>
      show Tracks _ _ _ (trackClass position depth (depth + 1) classes)
      rw [trackClass_succ]
      exact tracks.opens read
  | closeBracket =>
      show Tracks (if literalClose = some position then _ else _) _ _
        (trackClass _ _ (ScanMode.depth (if literalClose = some position then _ else _)) _)
      by_cases literal : literalClose = some position
      · rw [if_pos literal]
        show (inClass depth none).Tracks _ _ (trackClass position depth depth classes)
        rw [trackClass_self]
        exact tracks.of_classDepth?_eq (inClass depth none) rfl (by simp)
      · have deep := tracks.deep depth rfl
        rw [if_neg literal, depth_closes depth, trackClass_pred deep]
        exact tracks.closes
  | _ =>
      show (inClass depth literalClose).Tracks _ _ (trackClass position depth depth classes)
      rw [trackClass_self]
      exact tracks.advance read (by decide)

/-- Every byte keeps the mode in step with the open classes. -/
theorem step
    {state following : ScanState} (tracks : state.mode.Tracks marks position classes)
    {mark : Mark} (read : marks[position]? = some mark)
    (stepped : state.step position mark marks[position + 1]? = .ok following) :
    following.mode.Tracks marks (position + 1)
      (trackClass position state.mode.depth following.mode.depth classes) := by
  rcases state with ⟨mode, opened, inner, groups⟩
  cases mode with
  | escaped =>
      cases stepped
      exact tracks.of_classDepth?_eq plain rfl (by simp)
  | escapedInClass depth =>
      cases stepped
      show (inClass depth none).Tracks _ _ (trackClass position depth depth classes)
      rw [trackClass_self]
      exact tracks.of_classDepth?_eq (inClass depth none) rfl (by simp)
  | inClass depth literalClose =>
      cases stepped
      exact tracks.classMode read
  | plain =>
      have stays {other : ScanMode} (outside : other.classDepth? = none) :
          other.Tracks marks (position + 1)
            (trackClass position 0 other.depth classes) := by
        rw [depth, outside]
        apply tracks.of_classDepth?_eq other outside
        rintro depth close rfl
        cases outside
      cases mark with
      | openBracket =>
          cases stepped
          exact tracks.opens read
      | closeParenthesis =>
          have modeEq : following.mode = .plain := ScanState.closeGroup_mode stepped
          rw [modeEq]
          exact stays rfl
      | _ =>
          cases stepped
          exact stays rfl

end Tracks

end ScanMode

end NamedCapture
