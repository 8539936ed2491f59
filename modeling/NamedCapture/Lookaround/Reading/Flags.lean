import NamedCapture.Text

/-!
Contract: the flags of the dialect with lookaround, and the text they make
invisible.

Owns: the letters of the flags, the flag lists of groups, and the skipping of
blanks, line comments and comment groups.

Does not own: how long a flag stays in force.
-/

namespace NamedCapture.Lookaround

/-- The flags in force at a place of a pattern. -/
structure Flags where
  caseInsensitive : Bool := false
  multiLine : Bool := false
  dotMatchesNewLine : Bool := false
  swapGreed : Bool := false
  ignoreSpace : Bool := false
deriving DecidableEq, Repr

/-- What kind of invisible text is being skipped. -/
inductive SkipMode where
  | visible
  | lineComment
  | groupComment
  | groupCommentEscape
deriving DecidableEq, Repr

/-- The text after blanks, line comments and comment groups. Comment groups are
skipped always, the others only while the flag for that is on. -/
def skipInvisible
    (ignoreSpace : Bool) :
    SkipMode → Text → Except String Text
  | .groupComment, [] => .error "a comment is not closed"
  | .groupCommentEscape, [] => .error "a comment is not closed"
  | .lineComment, [] => .ok []
  | .visible, [] => .ok []
  | .groupCommentEscape, _ :: rest =>
      skipInvisible ignoreSpace .groupComment rest
  | .groupComment, character :: rest =>
      if character = ')' then skipInvisible ignoreSpace .visible rest
      else if character = '\\' then
        skipInvisible ignoreSpace .groupCommentEscape rest
      else skipInvisible ignoreSpace .groupComment rest
  | .lineComment, character :: rest =>
      if character = '\n' then skipInvisible ignoreSpace .visible rest
      else skipInvisible ignoreSpace .lineComment rest
  | .visible, '(' :: '?' :: '#' :: rest =>
      skipInvisible ignoreSpace .groupComment rest
  | .visible, character :: rest =>
      if ignoreSpace && character == '#' then
        skipInvisible ignoreSpace .lineComment rest
      else if ignoreSpace &&
          (character == ' ' || character == '\r' || character == '\n' ||
            character == '\t') then
        skipInvisible ignoreSpace .visible rest
      else
        .ok (character :: rest)

def Flags.skip (flags : Flags) (text : Text) : Except String Text :=
  skipInvisible flags.ignoreSpace .visible text

namespace Flags

/-- The flags after one letter is turned on or off, if it is a flag letter.
Unicode cannot be turned off. -/
def set? (flags : Flags) (letter : Char) (on : Bool) : Option Flags :=
  match letter with
  | 'i' => some { flags with caseInsensitive := on }
  | 'm' => some { flags with multiLine := on }
  | 's' => some { flags with dotMatchesNewLine := on }
  | 'U' => some { flags with swapGreed := on }
  | 'x' => some { flags with ignoreSpace := on }
  | 'u' => if on then some flags else none
  | _ => none

/-- Apply a list of flag letters, up to the parenthesis or colon that ends it.
The letters after a hyphen are turned off. `size` is the size of the text from
the start of the list on: only what stands right at the start makes a list
empty, or makes it a mere hyphen. Yields the new flags and the text from the
ending character on. -/
def applyList
    (flags : Flags)
    (on : Bool)
    (size : Nat) :
    Nat → Text → Except String (Flags × Text)
  | 0, _ => .error "a flag list is not closed"
  | fuel + 1, text =>
      match flags.skip text with
      | .error error => .error error
      | .ok [] => .error "a flag list is not closed"
      | .ok (character :: rest) =>
          if character = ')' ∨ character = ':' then
            let position := size - (rest.length + 1)
            if (position = 0 ∧ character = ')') ∨ (!on ∧ position = 1) then
              .error "a flag list is empty"
            else
              .ok (flags, character :: rest)
          else if character = '-' then
            if on then flags.applyList false size fuel rest
            else .error "a flag is unknown"
          else
            match flags.set? character on with
            | some changed => changed.applyList on size fuel rest
            | none => .error "a flag is unknown"

end Flags

end NamedCapture.Lookaround
