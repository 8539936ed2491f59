import NamedCapture.Expression.Reading.Escape
import NamedCapture.Lookaround.Node
import NamedCapture.Lookaround.Reading.Flags

/-!
Contract: what a backslash and the characters after it stand for in the dialect
with lookaround.

Owns: literal escapes, code points, the classes and conditions with a letter of
their own, and the numbers and names that refer to groups.

Does not own: which group a name belongs to.
-/

namespace NamedCapture.Lookaround

/-- What an escape stands for. -/
inductive Escape where
  | node (node : Node)
  | groupNumber (number : Nat)
  | groupName (name : Text)
deriving Repr

def isNameCharacter (character : Char) : Bool :=
  character == '_' || Unicode.isAlphanumeric character

/-- A nonempty name closed by a character, and the text after that. Where
groups can be counted back from, a name may start with a hyphen. -/
def readName?
    (relative : Bool)
    (closing : Char)
    (text : Text) :
    Option (Text × Text) :=
  let name :=
    match text with
    | '-' :: rest =>
        if relative then '-' :: rest.takeWhile isNameCharacter else []
    | _ => text.takeWhile isNameCharacter
  match name, text.drop name.length with
  | [], _ => none
  | _, character :: rest =>
      if character = closing then some (name, rest) else none
  | _, [] => none

def decimalValue (digits : Text) : Nat :=
  digits.foldl (fun value digit => 10 * value + (digit.toNat - '0'.toNat)) 0

/-- The greatest number a count may be written as; as an upper bound it stands
for no bound at all. -/
def greatestCount : Nat := 0xFFFFFFFFFFFFFFFF

/-- The group that a number refers to when `groups` groups were opened before; a
negative number counts back from the latest of them. -/
def numberedGroup? (groups : Nat) (name : Text) : Option Nat :=
  let isNumber (digits : Text) : Bool :=
    !digits.isEmpty && digits.all Char.isDigit
  match name with
  | '-' :: digits =>
      let back := decimalValue digits
      if !isNumber digits || groups + 1 < back then none
      else if back = 0 then some 0
      else some (groups + 1 - back)
  | _ => if isNumber name then some (decimalValue name) else none

/-- A number in decimal digits, and the text after it. -/
def readCount? (text : Text) : Option (Nat × Text) :=
  let digits := text.takeWhile Char.isDigit
  let value := decimalValue digits
  if digits.isEmpty || greatestCount < value then none
  else some (value, text.drop digits.length)

/-- The character of a code point in hexadecimal: exactly as many digits as
asked for, or one to eight digits in braces. -/
def readCodePoint
    (count : Nat)
    (text : Text) :
    Except String (Char × Text) :=
  let finish (digits rest : Text) : Except String (Char × Text) :=
    match Primitive.charOfCode? (Primitive.hexValue digits) with
    | some character => .ok (character, rest)
    | none => .error "a code point is not a character"
  let isHexDigit (character : Char) : Bool :=
    (Primitive.hexDigit? character).isSome
  let bare := text.take count
  if bare.length = count ∧ bare.all isHexDigit then
    finish bare (text.drop count)
  else
    match text with
    | '{' :: inside =>
        let digits := inside.takeWhile isHexDigit
        match digits, inside.drop digits.length with
        | _ :: _, '}' :: rest =>
            if digits.length ≤ 8 then finish digits rest
            else .error "a code point has too many digits"
        | _, _ => .error "a code point is not closed"
    | _ => .error "a code point has a digit that is not hexadecimal"

/-- A literal character that is never subject to case. -/
def fixedLiteral (character : Char) : Escape :=
  .node (.literal character false)

/-- What the text after a backslash stands for, and the text after that.
Conditions and names are known only outside classes, a backspace only inside
them. -/
def readEscape
    (flags : Flags)
    (inClass : Bool) :
    Text → Except String (Escape × Text)
  | [] => .error "a backslash ends the pattern"
  | character :: rest =>
      let place (condition : Assertion) : Except String (Escape × Text) :=
        .ok (.node (.place condition), rest)
      let codePoint (count : Nat) : Except String (Escape × Text) :=
        match readCodePoint count rest with
        | .error error => .error error
        | .ok (value, remaining) =>
            .ok (.node (.literal value flags.caseInsensitive), remaining)
      let letter : Except String (Escape × Text) :=
        match character with
        | 'd' | 'D' | 's' | 'S' | 'w' | 'W' =>
            .ok
              (.node (.classText ['\\', character] flags.caseInsensitive), rest)
        | 'h' => .ok (.node (.classText "[0-9A-Fa-f]".toList false), rest)
        | 'H' => .ok (.node (.classText "[^0-9A-Fa-f]".toList false), rest)
        | 'x' => codePoint 2
        | 'u' => codePoint 4
        | 'U' => codePoint 8
        | 'a' => .ok (fixedLiteral '\x07', rest)
        | 'b' => .ok (fixedLiteral '\x08', rest)
        | 'f' => .ok (fixedLiteral '\x0C', rest)
        | 'n' => .ok (fixedLiteral '\n', rest)
        | 'r' => .ok (fixedLiteral '\r', rest)
        | 't' => .ok (fixedLiteral '\t', rest)
        | 'v' => .ok (fixedLiteral '\x0B', rest)
        | 'e' => .ok (fixedLiteral '\x1B', rest)
        | _ =>
            if character.isAlpha && !"kAzBKG".toList.contains character then
              .error "an escape is unknown"
            else
              .ok (fixedLiteral character, rest)
      if character.isDigit then
        match readCount? (character :: rest) with
        | some (number, remaining) => .ok (.groupNumber number, remaining)
        | none => .error "a group number is too great"
      else if inClass then
        letter
      else
        match character with
        | 'k' =>
            let named? :=
              match rest with
              | '<' :: name => readName? true '>' name
              | '\'' :: name => readName? true '\'' name
              | _ => none
            match named? with
            | some (name, remaining) => .ok (.groupName name, remaining)
            | none => .error "a group name is malformed"
        | 'A' => place .textStart
        | 'z' => place .textEnd
        | 'b' =>
            if rest.head? = some '{' then .error "an escape is unknown"
            else place (.wordBoundary true)
        | 'B' =>
            if rest.head? = some '{' then .error "an escape is unknown"
            else place (.notWordBoundary true)
        | '<' => place (.wordStart true)
        | '>' => place (.wordEnd true)
        | 'K' => .ok (.node .keepOut, rest)
        | 'G' => .ok (.node .searchStart, rest)
        | _ => letter

end NamedCapture.Lookaround
