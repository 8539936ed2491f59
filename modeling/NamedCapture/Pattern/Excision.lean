import NamedCapture.Text

/-!
Contract: a text with some byte spans cut out.

Owns:
- the treatment of spans that are unsorted, overlapping, reversed, out of
  bounds, or off a character boundary. Before each span the text from the cursor
  to the span's start is kept if that is a slice; then the cursor moves to the
  span's end, never backwards. At the end the rest is kept if that is a slice;
- the room that is reserved for what is left, whose size is counted in machine
  words before anything is kept.

Does not own: which spans are worth cutting.
-/

namespace NamedCapture

/-- The number of bytes of a span, zero if it is reversed. -/
def Span.width (span : Span) : Nat :=
  span.stop - span.start

/-- What a build does with a sum that does not fit into a word. -/
inductive Overflow where
  /-- Sums are checked, and the program stops. -/
  | stops
  /-- The sum is taken modulo the number of words. -/
  | wraps
deriving DecidableEq, Repr

namespace Overflow

/-- The sum of two words, if the program goes on. -/
def add? (overflow : Overflow) (first second : Nat) : Option Nat :=
  if first + second < UInt64.size then
    some (first + second)
  else
    match overflow with
    | .stops => none
    | .wraps => some ((first + second) % UInt64.size)

/-- The widths of some spans added to a word, one after the other. A byte counts
once for every span it is in. -/
def addWidths? (overflow : Overflow) (total : Nat) : List Span → Option Nat
  | [] => some total
  | span :: spans => (overflow.add? total span.width).bind (overflow.addWidths? · spans)

end Overflow

namespace Text

/-- Cut spans out of the part of a text that starts at a cursor. -/
def exciseFrom (text : Text) (cursor : Nat) : List Span → Text
  | [] => (text.dropBytes? cursor).getD []
  | span :: spans =>
      (text.slice? cursor span.start).getD [] ++
        exciseFrom text (max cursor span.stop) spans

def excise (text : Text) (spans : List Span) : Text :=
  text.exciseFrom 0 spans

/-- The number of bytes that room is reserved for: those of the text, less the
widths of the spans, or none if these are more. -/
def reserved? (text : Text) (overflow : Overflow) (spans : List Span) : Option Nat :=
  (overflow.addWidths? 0 spans).map (text.byteLength - ·)

/-- Reserve room for what is left of a text, and write that. Nothing is written if
the program stops before. -/
def rewrite? (text : Text) (overflow : Overflow) (spans : List Span) : Option Text :=
  (text.reserved? overflow spans).map fun _ => text.excise spans

end Text

end NamedCapture
