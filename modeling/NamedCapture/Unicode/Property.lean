import NamedCapture.Unicode.Alphabetic
import NamedCapture.Unicode.Blank
import NamedCapture.Unicode.Numeric
import NamedCapture.Unicode.Word

/-!
Contract: the character properties that pattern dialects refer to.

Owns: the tests for letters, digits, white space and word characters over all
of Unicode.

Does not own: their ASCII counterparts.
-/

namespace NamedCapture.Unicode

def isAlphabetic (character : Char) : Bool :=
  alphabetic.contains character

def isDecimalDigit (character : Char) : Bool :=
  decimalDigits.contains character

def isWhiteSpace (character : Char) : Bool :=
  whiteSpace.contains character

def isAlphanumeric (character : Char) : Bool :=
  isAlphabetic character || numericNotAlphabetic.contains character

def isWord (character : Char) : Bool :=
  isAlphabetic character || wordNotAlphabetic.contains character

end NamedCapture.Unicode
