import NamedCapture.Expression.CharSet

/-!
Contract: conditions on a place between two characters of a subject.

Owns: the line, text and word conditions, each decided by the character before
the place and the character after it.

Does not own: the notation of conditions.
-/

namespace NamedCapture

/-- A condition on a place in a subject. -/
inductive Assertion where
  | textStart
  | textEnd
  /-- The flag says whether a carriage return also ends a line. -/
  | lineStart (crlf : Bool)
  | lineEnd (crlf : Bool)
  /-- The flag says whether words are those of Unicode or of ASCII alone. -/
  | wordBoundary (unicode : Bool)
  | notWordBoundary (unicode : Bool)
  | wordStart (unicode : Bool)
  | wordEnd (unicode : Bool)
  | wordStartHalf (unicode : Bool)
  | wordEndHalf (unicode : Bool)
deriving DecidableEq, Repr

namespace Assertion

/-- Whether a word character stands next to the place. -/
def besideWord (unicode : Bool) : Option Char → Bool
  | none => false
  | some character => (CharProperty.word unicode).holds character

/-- Whether the condition holds between two characters; a missing character is
an end of the subject. No line boundary lies inside a carriage return followed
by a line feed. -/
def holds : Assertion → (before after : Option Char) → Bool
  | .textStart, before, _ => before.isNone
  | .textEnd, _, after => after.isNone
  | .lineStart false, before, _ => before.isNone || before == some '\n'
  | .lineStart true, before, after =>
      before.isNone || before == some '\n' ||
        (before == some '\r' && after != some '\n')
  | .lineEnd false, _, after => after.isNone || after == some '\n'
  | .lineEnd true, before, after =>
      after.isNone || after == some '\r' ||
        (after == some '\n' && before != some '\r')
  | .wordBoundary unicode, before, after =>
      besideWord unicode before != besideWord unicode after
  | .notWordBoundary unicode, before, after =>
      besideWord unicode before == besideWord unicode after
  | .wordStart unicode, before, after =>
      !besideWord unicode before && besideWord unicode after
  | .wordEnd unicode, before, after =>
      besideWord unicode before && !besideWord unicode after
  | .wordStartHalf unicode, before, _ => !besideWord unicode before
  | .wordEndHalf unicode, _, after => !besideWord unicode after

end Assertion

end NamedCapture
