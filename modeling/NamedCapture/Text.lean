/-!
Contract: text as a sequence of characters addressed by UTF-8 byte offsets.

Owns:
- the byte length and the byte string of a text;
- half-open byte spans and the slices they cut.

A span cuts a slice exactly when it is not reversed, ends inside the text, and
splits no character at either end.

Does not own: the meaning of any offset, which belongs to whoever produced it.
-/

namespace NamedCapture

abbrev Text := List Char

/-- A half-open range of UTF-8 byte offsets. Nothing ties it to a text: it may
be reversed, reach past the end, or split a character. -/
structure Span where
  start : Nat
  stop : Nat
deriving DecidableEq, Repr

namespace Text

def byteLength : Text → Nat
  | [] => 0
  | character :: rest => character.utf8Size + byteLength rest

def bytes (text : Text) : List UInt8 :=
  text.flatMap String.utf8EncodeChar

/-- The text from a byte offset on, when the offset is a character boundary of
the text. -/
def dropBytes? : Nat → Text → Option Text
  | 0, text => some text
  | _ + 1, [] => none
  | count + 1, character :: rest =>
      if character.utf8Size ≤ count + 1 then
        dropBytes? (count + 1 - character.utf8Size) rest
      else
        none

/-- The text before a byte offset, when the offset is a character boundary of
the text. -/
def takeBytes? : Nat → Text → Option Text
  | 0, _ => some []
  | _ + 1, [] => none
  | count + 1, character :: rest =>
      if character.utf8Size ≤ count + 1 then
        (takeBytes? (count + 1 - character.utf8Size) rest).map (character :: ·)
      else
        none

/-- The text between two byte offsets, when they are ordered and both are
character boundaries of the text. -/
def slice? (text : Text) (start stop : Nat) : Option Text :=
  if start ≤ stop then
    (text.dropBytes? start).bind (takeBytes? (stop - start))
  else
    none

def sliceAt? (text : Text) (span : Span) : Option Text :=
  text.slice? span.start span.stop

/-- The text as a string of characters, for rendered messages. -/
def render (text : Text) : String :=
  String.ofList text

end Text

end NamedCapture
