import NamedCapture.Text

/-!
Contract: the kind of group that a text opening with a parenthesis starts.

Only the characters up to the first one that cannot continue a prefix are
looked at, so the text may reach past the end of the group.

Owns:
- the prefixes of lookaround, flag, atomic and named groups;
- the name and the length of a name annotation.

Does not own: whether the text is a whole group.
-/

namespace NamedCapture

/-- What a parenthesis opens. -/
inductive GroupKind where
  /-- A plain, flag or atomic group that takes no capture number. -/
  | nonCapturing
  /-- A lookahead or lookbehind. -/
  | lookaround
  /-- A capturing group with a name; the length counts the bytes between the
  parenthesis and the group's body. -/
  | named (name : Text) (annotationLength : Nat)
  /-- Any other group; it takes a number and has no name. -/
  | capturing
deriving DecidableEq, Repr

namespace GroupKind

/-- Whether a group of this kind takes a capture number. -/
def isCapturing : GroupKind → Bool
  | .named _ _ => true
  | .capturing => true
  | .nonCapturing => false
  | .lookaround => false

/-- The texts that open a lookaround, after the parenthesis. -/
def lookaroundOpenings : List Text :=
  ["?=".toList, "?!".toList, "?<=".toList, "?<!".toList]

/-- The texts that open a name, after the parenthesis. -/
def nameOpenings : List Text :=
  ["?<".toList, "?P<".toList]

/-- What follows an opening, when the text starts with it. -/
def afterOpening? : (opening text : Text) → Option Text
  | [], text => some text
  | _ :: _, [] => none
  | expected :: opening, character :: text =>
      if expected = character then afterOpening? opening text else none

def isNameLetter (character : Char) : Bool :=
  character.isAlpha

/-- An ASCII letter, or the hyphen that turns flags off. -/
def isFlagLetter (character : Char) : Bool :=
  character.isAlpha || character == '-'

/-- The letters of a name and the length of its annotation, when the text after
one opening is a nonempty run of letters closed by an angle bracket. -/
def annotationAfter? (body opening : Text) : Option (Text × Nat) :=
  (afterOpening? opening body).bind fun rest =>
    let name := rest.takeWhile isNameLetter
    if name ≠ [] ∧ (rest.drop name.length).head? = some '>' then
      some (name, opening.length + name.length + 1)
    else
      none

/-- The name that a group's body starts with, and the length of its
annotation. -/
def annotation? (body : Text) : Option (Text × Nat) :=
  nameOpenings.findSome? (annotationAfter? body)

/-- Whether a group's body is a nonempty run of flags closed by a parenthesis
or a colon. -/
def isFlagBody (body : Text) : Bool :=
  match body with
  | '?' :: rest =>
      let flags := rest.takeWhile isFlagLetter
      let closing := (rest.drop flags.length).head?
      !flags.isEmpty && (closing == some ')' || closing == some ':')
  | _ => false

/-- The kind of group whose body, after the parenthesis, is the given text. -/
def ofBody (body : Text) : GroupKind :=
  if "?:".toList.isPrefixOf body then
    .nonCapturing
  else if lookaroundOpenings.any (·.isPrefixOf body) then
    .lookaround
  else
    match annotation? body with
    | some (name, annotationLength) => .named name annotationLength
    | none =>
        if "?>".toList.isPrefixOf body || isFlagBody body then
          .nonCapturing
        else
          .capturing

/-- The kind of group that a text opens. A text that does not start with a
parenthesis counts as a plain capturing group. -/
def classify (group : Text) : GroupKind :=
  match group with
  | '(' :: body => ofBody body
  | _ => .capturing

end GroupKind

end NamedCapture
