import NamedCapture.Text

/-!
Contract: the switches of compilation and of one search.

Owns: the defaults, and the inline flag group that says the same as a set of
compile switches.

Does not own: what a switch makes an engine do.
-/

namespace NamedCapture

/-- Switches applied when a pattern is compiled. -/
structure CompileOptions where
  /-- Letters match regardless of case (`i`). -/
  caseInsensitive : Bool := false
  /-- Line anchors match at line boundaries (`m`). -/
  multiLine : Bool := false
  /-- The dot matches a line feed (`s`). -/
  dotMatchesNewLine : Bool := false
  /-- Quantifiers are lazy unless marked (`U`). -/
  swapGreed : Bool := false
  /-- A carriage return also ends a line (`R`). -/
  crlf : Bool := false
  /-- Classes and case follow Unicode (`u`). -/
  unicode : Bool := true
  /-- Cap on the size of the compiled program, in bytes. -/
  sizeLimit : Option Nat := none
deriving DecidableEq, Repr

namespace CompileOptions

/-- The letters of the switches that are on, in the order they are written. -/
def enabledFlags (options : CompileOptions) : Text :=
  let switches : List (Bool × Char) :=
    [(options.caseInsensitive, 'i'), (options.multiLine, 'm'),
      (options.dotMatchesNewLine, 's'), (options.swapGreed, 'U'),
      (options.crlf, 'R')]
  (switches.filter Prod.fst).map Prod.snd

/-- The inline group that sets the same flags, empty when every flag has its
default. -/
def inlineFlags (options : CompileOptions) : Text :=
  let flags :=
    options.enabledFlags ++ (if options.unicode then [] else ['-', 'u'])
  if flags.isEmpty then [] else ['(', '?'] ++ flags ++ [')']

end CompileOptions

/-- Switches applied to one search. -/
structure MatchOptions where
  /-- The list of matches stops at the first one that starts elsewhere than at
  byte zero. -/
  anchored : Bool := false
  /-- The greatest number of matches wanted. -/
  limit : Option Nat := none
deriving DecidableEq, Repr

end NamedCapture
