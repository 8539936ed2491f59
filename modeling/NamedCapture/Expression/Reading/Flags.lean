import NamedCapture.Options
import NamedCapture.Unicode.Property

/-!
Contract: the flags in force at a place of a pattern, and the text they make
invisible.

Owns: the letters of the flags, the flag lists of groups, and the skipping of
blanks and comments.

Does not own: how long a flag stays in force.
-/

namespace NamedCapture

/-- The flags in force at a place of a pattern. -/
structure PatternFlags where
  caseInsensitive : Bool := false
  multiLine : Bool := false
  dotMatchesNewLine : Bool := false
  swapGreed : Bool := false
  crlf : Bool := false
  unicode : Bool := true
  ignoreSpace : Bool := false
deriving DecidableEq, Repr

namespace PatternFlags

def ofOptions (options : CompileOptions) : PatternFlags :=
  { caseInsensitive := options.caseInsensitive
    multiLine := options.multiLine
    dotMatchesNewLine := options.dotMatchesNewLine
    swapGreed := options.swapGreed
    crlf := options.crlf
    unicode := options.unicode }

/-- The flags after one letter is turned on or off, if it is a flag letter. -/
def set? (flags : PatternFlags) (letter : Char) (on : Bool) :
    Option PatternFlags :=
  match letter with
  | 'i' => some { flags with caseInsensitive := on }
  | 'm' => some { flags with multiLine := on }
  | 's' => some { flags with dotMatchesNewLine := on }
  | 'U' => some { flags with swapGreed := on }
  | 'R' => some { flags with crlf := on }
  | 'u' => some { flags with unicode := on }
  | 'x' => some { flags with ignoreSpace := on }
  | _ => none

/-- The text from its first character outside blanks and comments on. A comment
runs from a number sign to the end of its line. -/
def skipBlankFrom (inComment : Bool) : Text → Text
  | [] => []
  | character :: rest =>
      if inComment then skipBlankFrom (character != '\n') rest
      else if Unicode.isWhiteSpace character then skipBlankFrom false rest
      else if character = '#' then skipBlankFrom true rest
      else character :: rest

/-- The text from its first visible character on. Blanks and comments are
invisible only while the flag for that is on. -/
def skipBlank (flags : PatternFlags) (text : Text) : Text :=
  if flags.ignoreSpace then skipBlankFrom false text else text

/-- The longest run of accepted characters, with invisible text between and
after them left out, and the text after the run. -/
def spanVisibleFrom
    (flags : PatternFlags)
    (accepts : Char → Bool)
    (inComment : Bool) :
    Text → Text × Text
  | [] => ([], [])
  | character :: rest =>
      if inComment then
        flags.spanVisibleFrom accepts (character != '\n') rest
      else if accepts character then
        let (taken, remaining) := flags.spanVisibleFrom accepts false rest
        (character :: taken, remaining)
      else if flags.ignoreSpace && Unicode.isWhiteSpace character then
        flags.spanVisibleFrom accepts false rest
      else if flags.ignoreSpace && character == '#' then
        flags.spanVisibleFrom accepts true rest
      else
        ([], character :: rest)

/-- The longest run of accepted visible characters and the text after it. -/
def spanVisible
    (flags : PatternFlags)
    (accepts : Char → Bool)
    (text : Text) :
    Text × Text :=
  flags.spanVisibleFrom accepts false text

/-- Apply a list of flag letters, up to the parenthesis or colon that ends it;
the letters after a hyphen are turned off. No letter may occur twice, there is
at most one hyphen, and it is not the last. Yields the new flags, whether the
list was empty, and the text from the ending character on. -/
def applyList
    (flags : PatternFlags)
    (seen : List Char) :
    Text → Except String (PatternFlags × Bool × Text)
  | [] => .error "a flag list is not closed"
  | character :: rest =>
      if character = ')' ∨ character = ':' then
        if seen.head? = some '-' then
          .error "a flag list ends with a hyphen"
        else
          .ok (flags, seen.isEmpty, character :: rest)
      else if character ∈ seen then
        .error "a flag occurs twice"
      else if character = '-' then
        flags.applyList (character :: seen) rest
      else
        match flags.set? character ('-' ∉ seen) with
        | some changed => changed.applyList (character :: seen) rest
        | none => .error "a flag is unknown"

end PatternFlags

end NamedCapture
