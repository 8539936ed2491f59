import NamedCapture.Unicode.Folding
import NamedCapture.Unicode.Property

/-!
Contract: sets of characters as patterns describe them.

Owns: the operations of character classes, the membership test, and the
boundaries of a class.

Does not own: the notation of classes.
-/

namespace NamedCapture

/-- A property that has a class of its own. The flag says whether it ranges over
all of Unicode or over ASCII alone. -/
inductive CharProperty where
  | digit (unicode : Bool)
  | space (unicode : Bool)
  | word (unicode : Bool)
deriving DecidableEq, Repr

namespace CharProperty

/-- ASCII white space, vertical tab and form feed included. -/
def isAsciiSpace (character : Char) : Bool :=
  character == ' ' || ('\t' ≤ character && character ≤ '\r')

/-- An ASCII letter, an ASCII digit, or the underscore. -/
def isAsciiWord (character : Char) : Bool :=
  character.isAlphanum || character == '_'

def holds : CharProperty → Char → Bool
  | .digit true, character => Unicode.isDecimalDigit character
  | .digit false, character => character.isDigit
  | .space true, character => Unicode.isWhiteSpace character
  | .space false, character => isAsciiSpace character
  | .word true, character => Unicode.isWord character
  | .word false, character => isAsciiWord character

/-- The code points at which the property begins and ends to hold. -/
def boundaries : CharProperty → Unicode.Boundaries
  | .digit true => Unicode.decimalDigits
  | .digit false => [0x30, 0x3A]
  | .space true => Unicode.whiteSpace
  | .space false => [0x09, 0x0E, 0x20, 0x21]
  | .word true => .combine or Unicode.alphabetic Unicode.wordNotAlphabetic
  | .word false => [0x30, 0x3A, 0x41, 0x5B, 0x5F, 0x60, 0x61, 0x7B]

end CharProperty

/-- A set of characters. -/
inductive CharSet where
  | empty
  | range (first last : Char)
  | property (kind : CharProperty)
  | union (left right : CharSet)
  | intersection (left right : CharSet)
  | difference (left right : CharSet)
  | symmetricDifference (left right : CharSet)
  | complement (set : CharSet)
  /-- The characters with a case variant in the set. The flag says whether case
  is that of Unicode or of ASCII alone. -/
  | caseClosure (unicode : Bool) (set : CharSet)
deriving DecidableEq, Repr

namespace CharSet

/-- The ASCII case variants of a character, itself included. -/
def asciiVariants (character : Char) : List Char :=
  if character.isUpper then [character, character.toLower]
  else if character.isLower then [character, character.toUpper]
  else [character]

/-- The case variants of a character, itself included. -/
def caseVariants (unicode : Bool) (character : Char) : List Char :=
  if unicode then Unicode.variants character else asciiVariants character

def contains : CharSet → Char → Bool
  | .empty, _ => false
  | .range first last, character => first ≤ character && character ≤ last
  | .property kind, character => kind.holds character
  | .union left right, character =>
      left.contains character || right.contains character
  | .intersection left right, character =>
      left.contains character && right.contains character
  | .difference left right, character =>
      left.contains character && !right.contains character
  | .symmetricDifference left right, character =>
      left.contains character != right.contains character
  | .complement set, character => !set.contains character
  | .caseClosure unicode set, character =>
      (caseVariants unicode character).any fun variant => set.contains variant

def only (character : Char) : CharSet :=
  .range character character

def ofList (characters : List Char) : CharSet :=
  characters.foldr (fun character set => .union (only character) set) .empty

def ofRanges (ranges : List (Char × Char)) : CharSet :=
  ranges.foldr (fun (first, last) set => .union (.range first last) set) .empty

/-- Whether a set of characters below 256 stays below 128. -/
def isAsciiOnly (set : CharSet) : Bool :=
  (List.range' 128 128).all fun code => !set.contains (Char.ofNat code)

/-- The letters of ASCII by code point, each with its case variants. -/
def asciiCasedVariants : List (Nat × List Nat) :=
  (List.range' 0x41 26 ++ List.range' 0x61 26).map fun code =>
    (code, (asciiVariants (Char.ofNat code)).map Char.toNat)

def casedVariants (unicode : Bool) : List (Nat × List Nat) :=
  if unicode then Unicode.casedVariants else asciiCasedVariants

/-- The code points at which membership in a set changes. -/
def boundaries : CharSet → Unicode.Boundaries
  | .empty => []
  | .range first last =>
      if first ≤ last then [first.toNat, last.toNat + 1] else []
  | .property kind => kind.boundaries
  | .union left right => .combine or left.boundaries right.boundaries
  | .intersection left right => .combine and left.boundaries right.boundaries
  | .difference left right =>
      .combine (· && !·) left.boundaries right.boundaries
  | .symmetricDifference left right =>
      .combine (· != ·) left.boundaries right.boundaries
  | .complement set =>
      .combine (· && !·) Unicode.Boundaries.everything set.boundaries
  | .caseClosure unicode set =>
      let members := set.boundaries
      let variants :=
        (casedVariants unicode).filterMap fun (code, variants) =>
          if variants.any members.containsCode then some code else none
      .combine or members (.ofCodes variants)

def ranges (set : CharSet) : List (Nat × Nat) :=
  set.boundaries.ranges

end CharSet

end NamedCapture
