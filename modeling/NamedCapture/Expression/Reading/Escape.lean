import NamedCapture.Expression.Assertion
import NamedCapture.Expression.Reading.Flags

/-!
Contract: what a backslash and the characters after it stand for.

Owns: literal escapes, code points in hexadecimal, the classes with a letter of
their own, and the conditions with a letter of their own.

Does not own: where each of them is allowed.
-/

namespace NamedCapture

/-- What one indivisible piece of a pattern stands for. -/
inductive Primitive where
  | literal (character : Char)
  | set (set : CharSet)
  | assertion (assertion : Assertion)
deriving DecidableEq, Repr

namespace Primitive

/-- A character with a meaning of its own somewhere in a pattern. -/
def isMeta (character : Char) : Bool :=
  "\\.+*?()|[]\x7b\x7d^$#&-~".toList.contains character

/-- A character that a backslash makes literal: any in ASCII but letters,
digits and angle brackets. -/
def isEscapable (character : Char) : Bool :=
  isMeta character ||
    (character.toNat < 128 && !character.isAlphanum &&
      character != '<' && character != '>')

def hexDigit? (character : Char) : Option Nat :=
  if character.isDigit then some (character.toNat - '0'.toNat)
  else if 'a' ≤ character ∧ character ≤ 'f' then
    some (character.toNat - 'a'.toNat + 10)
  else if 'A' ≤ character ∧ character ≤ 'F' then
    some (character.toNat - 'A'.toNat + 10)
  else none

def hexValue (digits : Text) : Nat :=
  digits.foldl (fun value digit => 16 * value + (hexDigit? digit).getD 0) 0

/-- The character of a code point, unless the number is a surrogate or too
great. -/
def charOfCode? (code : Nat) : Option Char :=
  if Nat.isValidChar code then some (Char.ofNat code) else none

/-- A given number of hexadecimal digits, and the text after them. -/
def takeHexDigits
    (flags : PatternFlags) :
    Nat → Text → Except String (Text × Text)
  | 0, text => .ok ([], text)
  | _ + 1, [] => .error "a code point is incomplete"
  | count + 1, character :: rest =>
      if (hexDigit? character).isSome then
        match takeHexDigits flags count (flags.skipBlank rest) with
        | .error error => .error error
        | .ok (digits, remaining) => .ok (character :: digits, remaining)
      else
        .error "a code point has a digit that is not hexadecimal"

/-- The character given by the text after one of the letters that announce a
code point: as many digits as the letter asks for, or any number of digits in
braces. Without Unicode, two digits are a byte, which must be ASCII. -/
def readCodePoint
    (flags : PatternFlags)
    (count : Nat)
    (text : Text) :
    Except String (Primitive × Text) :=
  let finish (digits remaining : Text) (bare : Bool) :
      Except String (Primitive × Text) :=
    match charOfCode? (hexValue digits) with
    | none => .error "a code point is not a character"
    | some character =>
        if bare && count == 2 && !flags.unicode && 128 ≤ character.toNat then
          .error "a byte is not ASCII"
        else
          .ok (.literal character, remaining)
  match flags.skipBlank text with
  | '{' :: rest =>
      match flags.spanVisible (hexDigit? · |>.isSome) rest with
      | ([], _) => .error "a code point has no digits"
      | (digits, '}' :: remaining) =>
          finish digits (flags.skipBlank remaining) false
      | _ => .error "a code point is not closed"
  | visible =>
      match takeHexDigits flags count visible with
      | .error error => .error error
      | .ok (digits, remaining) => finish digits remaining true

/-- The class of a property or of its complement. Without Unicode the
complement would split characters. -/
def readProperty
    (flags : PatternFlags)
    (property : Bool → CharProperty)
    (negated : Bool)
    (rest : Text) :
    Except String (Primitive × Text) :=
  let members := CharSet.property (property flags.unicode)
  if negated then
    if flags.unicode then .ok (.set (.complement members), rest)
    else .error "a class could match part of a character"
  else
    .ok (.set members, rest)

/-- A word boundary, possibly of a special kind named in braces. Braces that do
not start with a name are left for a repetition. -/
def readBoundary
    (flags : PatternFlags)
    (rest : Text) :
    Except String (Primitive × Text) :=
  let isNameCharacter (character : Char) : Bool :=
    character.isAlpha || character == '-'
  let plain : Primitive := .assertion (.wordBoundary flags.unicode)
  match rest with
  | '{' :: inside =>
      match flags.skipBlank inside with
      | [] => .error "a brace is not closed"
      | first :: _ =>
          if isNameCharacter first then
            match flags.spanVisible isNameCharacter inside with
            | (name, '}' :: remaining) =>
                match String.ofList name with
                | "start" =>
                    .ok (.assertion (.wordStart flags.unicode), remaining)
                | "end" =>
                    .ok (.assertion (.wordEnd flags.unicode), remaining)
                | "start-half" =>
                    .ok (.assertion (.wordStartHalf flags.unicode), remaining)
                | "end-half" =>
                    .ok (.assertion (.wordEndHalf flags.unicode), remaining)
                | _ => .error "a word boundary is unknown"
            | _ => .error "a word boundary is not closed"
          else
            .ok (plain, rest)
  | _ => .ok (plain, rest)

/-- What the text after a backslash stands for, and the text after that. -/
def readEscape
    (flags : PatternFlags) :
    Text → Except String (Primitive × Text)
  | [] => .error "a backslash ends the pattern"
  | character :: rest =>
      if isEscapable character then
        .ok (.literal character, rest)
      else
        match character with
        | 'x' => readCodePoint flags 2 rest
        | 'u' => readCodePoint flags 4 rest
        | 'U' => readCodePoint flags 8 rest
        | 'd' => readProperty flags .digit false rest
        | 'D' => readProperty flags .digit true rest
        | 's' => readProperty flags .space false rest
        | 'S' => readProperty flags .space true rest
        | 'w' => readProperty flags .word false rest
        | 'W' => readProperty flags .word true rest
        | 'a' => .ok (.literal '\x07', rest)
        | 'f' => .ok (.literal '\x0C', rest)
        | 't' => .ok (.literal '\t', rest)
        | 'n' => .ok (.literal '\n', rest)
        | 'r' => .ok (.literal '\r', rest)
        | 'v' => .ok (.literal '\x0B', rest)
        | 'A' => .ok (.assertion .textStart, rest)
        | 'z' => .ok (.assertion .textEnd, rest)
        | 'b' => readBoundary flags rest
        | 'B' => .ok (.assertion (.notWordBoundary flags.unicode), rest)
        | '<' => .ok (.assertion (.wordStart flags.unicode), rest)
        | '>' => .ok (.assertion (.wordEnd flags.unicode), rest)
        | _ => .error "an escape is unknown"

end Primitive

end NamedCapture
