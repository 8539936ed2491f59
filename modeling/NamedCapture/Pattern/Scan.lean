import NamedCapture.Text
import NamedCapture.Pattern.Defect

/-!
Contract: one left-to-right pass over the bytes of a pattern that pairs its
structural parentheses.

A parenthesis is structural when it is neither escaped nor inside a character
class. The pass yields the outermost groups in source order, each with the
offsets of the groups opened inside it.

Owns:
- the four reading modes and their transitions;
- the offset at which a closing bracket is still literal;
- the balance errors.

Does not own: what kind of group a parenthesis opens.
-/

namespace NamedCapture

/-- What one byte of a pattern means to the scan. Every byte of a multibyte
character is `other`, because no such byte is ASCII. -/
inductive Mark where
  | backslash
  | openBracket
  | closeBracket
  | caret
  | openParenthesis
  | closeParenthesis
  | other
deriving DecidableEq, Repr

def Mark.ofByte (byte : UInt8) : Mark :=
  if byte = 0x5C then .backslash
  else if byte = 0x5B then .openBracket
  else if byte = 0x5D then .closeBracket
  else if byte = 0x5E then .caret
  else if byte = 0x28 then .openParenthesis
  else if byte = 0x29 then .closeParenthesis
  else .other

def Text.marks (pattern : Text) : List Mark :=
  pattern.bytes.map Mark.ofByte

/-- How the next byte is read.

A class remembers how many brackets are open and, until something else is
read, the offset at which a closing bracket is still literal. -/
inductive ScanMode where
  | plain
  | escaped
  | inClass (depth : Nat) (literalClose : Option Nat)
  | escapedInClass (depth : Nat)
deriving DecidableEq, Repr

/-- An outermost group and the offsets of the groups opened inside it. -/
structure ScannedGroup where
  span : Span
  inner : List Nat
deriving DecidableEq, Repr

/-- Everything the scan carries from byte to byte. `opened` holds the offsets
of the open groups, innermost first; `inner` holds the offsets of the groups
opened inside the outermost open one; `groups` holds the finished ones. -/
structure ScanState where
  mode : ScanMode
  opened : List Nat
  inner : List Nat
  groups : List ScannedGroup
deriving DecidableEq, Repr

namespace ScanState

def start : ScanState :=
  ⟨.plain, [], [], []⟩

/-- A closing bracket is literal directly after the bracket that opens a class,
or after the caret that negates it. -/
def literalClosePosition (openPosition : Nat) (next : Option Mark) : Nat :=
  if next = some .caret then openPosition + 2 else openPosition + 1

def classMode
    (depth : Nat)
    (literalClose : Option Nat)
    (position : Nat)
    (mark : Mark)
    (next : Option Mark) :
    ScanMode :=
  match mark with
  | .backslash => .escapedInClass depth
  | .openBracket =>
      .inClass (depth + 1) (some (literalClosePosition position next))
  | .closeBracket =>
      if literalClose = some position then .inClass depth none
      else if depth = 1 then .plain
      else .inClass (depth - 1) none
  | _ => .inClass depth literalClose

/-- Open a group at an offset. A group opened while another is open is also
listed as an inner one. -/
def openGroup (state : ScanState) (position : Nat) : ScanState :=
  { state with
    opened := position :: state.opened
    inner := if state.opened.isEmpty then state.inner
      else state.inner ++ [position] }

/-- Close the innermost open group with the parenthesis at an offset. Closing
the outermost one finishes it and hands over the inner list. -/
def closeGroup
    (state : ScanState)
    (position : Nat) :
    Except PatternError ScanState :=
  match state.opened with
  | [] => .error (.unmatchedClose position)
  | [first] =>
      .ok { state with
        opened := []
        inner := []
        groups := state.groups ++ [⟨⟨first, position + 1⟩, state.inner⟩] }
  | _ :: remaining => .ok { state with opened := remaining }

/-- Read one byte, with the byte after it in sight. -/
def step
    (state : ScanState)
    (position : Nat)
    (mark : Mark)
    (next : Option Mark) :
    Except PatternError ScanState :=
  match state.mode with
  | .escaped => .ok { state with mode := .plain }
  | .escapedInClass depth => .ok { state with mode := .inClass depth none }
  | .inClass depth literalClose =>
      .ok { state with mode := classMode depth literalClose position mark next }
  | .plain =>
      match mark with
      | .backslash => .ok { state with mode := .escaped }
      | .openBracket =>
          .ok { state with
            mode := .inClass 1 (some (literalClosePosition position next)) }
      | .openParenthesis => .ok (state.openGroup position)
      | .closeParenthesis => state.closeGroup position
      | _ => .ok state

/-- Read all remaining bytes, the first of which stands at `position`. -/
def run
    (position : Nat)
    (marks : List Mark)
    (state : ScanState) :
    Except PatternError ScanState :=
  match marks with
  | [] => .ok state
  | mark :: rest =>
      match state.step position mark rest.head? with
      | .error error => .error error
      | .ok following => run (position + 1) rest following

/-- The finished groups, unless one is still open; the innermost open one is
the one reported. -/
def finish (state : ScanState) : Except PatternError (List ScannedGroup) :=
  match state.opened with
  | [] => .ok state.groups
  | innermost :: _ => .error (.unclosedGroup innermost)

end ScanState

/-- The outermost groups of a pattern with the groups opened inside each. -/
def scanPattern (pattern : Text) : Except PatternError (List ScannedGroup) :=
  match ScanState.run 0 pattern.marks .start with
  | .error error => .error error
  | .ok state => state.finish

/-- The spans of the outermost groups of a pattern. -/
def scanGroups (pattern : Text) : Except PatternError (List Span) :=
  (scanPattern pattern).map (·.map ScannedGroup.span)

end NamedCapture
