import NamedCapture.Text

/-!
Contract: a subject as an array of characters, with places counted in
characters and converted to byte offsets.

Owns: the neighbours of a place, and the byte offset of a place.

Does not own: any search.
-/

namespace NamedCapture

/-- A subject under search. `offsets` holds the byte offset of every place,
both ends included. -/
structure Subject where
  characters : Array Char
  offsets : Array Nat
deriving Repr

namespace Subject

/-- The byte offsets of the places of a text that starts at an offset. -/
def offsetsFrom (offset : Nat) : Text → List Nat
  | [] => [offset]
  | character :: rest => offset :: offsetsFrom (offset + character.utf8Size) rest

def ofText (text : Text) : Subject :=
  ⟨text.toArray, (offsetsFrom 0 text).toArray⟩

def size (subject : Subject) : Nat :=
  subject.characters.size

def after? (subject : Subject) (place : Nat) : Option Char :=
  subject.characters[place]?

def before? (subject : Subject) (place : Nat) : Option Char :=
  match place with
  | 0 => none
  | previous + 1 => subject.characters[previous]?

def offset (subject : Subject) (place : Nat) : Nat :=
  subject.offsets.getD place 0

end Subject

/-- Places remembered during a search: an even slot holds the start of a group,
the slot after it the group's end. -/
abbrev Slots := Array (Option Nat)

namespace Slots

def unset (groups : Nat) : Slots :=
  Array.replicate (2 * groups) none

def read (slots : Slots) (slot : Nat) : Option Nat :=
  (slots[slot]?).join

def write (slots : Slots) (slot : Nat) (value : Option Nat) : Slots :=
  slots.setIfInBounds slot value

def span? (slots : Slots) (subject : Subject) (group : Nat) : Option Span :=
  match slots.read (2 * group), slots.read (2 * group + 1) with
  | some start, some stop => some ⟨subject.offset start, subject.offset stop⟩
  | _, _ => none

def spans (slots : Slots) (subject : Subject) (groups : Nat) :
    List (Option Span) :=
  (List.range groups).map (slots.span? subject)

end Slots

end NamedCapture
