import NamedCapture.Unicode.Boundaries

/-!
Contract: sets of characters as byte sequences in UTF-8.

A range of code points is the union of a few products of byte ranges: one byte
out of each range of a product, in order, spells one character.

Owns: the division of ranges into products, in increasing order.

Does not own: the encoding of a text.
-/

namespace NamedCapture.Unicode

/-- The bytes from a first to a last one. -/
structure ByteRange where
  first : Nat
  last : Nat
deriving DecidableEq, Repr

abbrev ByteProduct := List ByteRange

namespace ByteProduct

/-- What is added to the first six bits of a character of several bytes, by the
number of bytes that follow the first. -/
def leadMark : Nat → Nat
  | 0 => 0
  | 1 => 0xC0
  | 2 => 0xE0
  | _ => 0xF0

/-- What is added to six bits in a byte that is not the first. -/
def followMark : Nat := 0x80

/-- The products for the numbers from `first` to `last`, written with one digit
to the base 64 and `follow` more of them. `mark` is added to the first digit. -/
def spell (mark : Nat) : (follow first last : Nat) → List ByteProduct
  | 0, first, last => [[⟨mark + first, mark + last⟩]]
  | follow + 1, first, last =>
      let unit := 64 ^ (follow + 1)
      let low := first / unit
      let high := last / unit
      let under (digit first last : Nat) : List ByteProduct :=
        (spell followMark follow first last).map
          (⟨mark + digit, mark + digit⟩ :: ·)
      if low = high then
        under low (first % unit) (last % unit)
      else
        let startsWhole := first % unit = 0
        let endsWhole := last % unit = unit - 1
        let firstWhole := if startsWhole then low else low + 1
        let stopWhole := if endsWhole then high + 1 else high
        let front :=
          if startsWhole then [] else under low (first % unit) (unit - 1)
        let back := if endsWhole then [] else under high 0 (last % unit)
        let middle :=
          if firstWhole < stopWhole then
            [⟨mark + firstWhole, mark + (stopWhole - 1)⟩ ::
              List.replicate (follow + 1) ⟨followMark, followMark + 63⟩]
          else
            []
        front ++ middle ++ back

/-- The ranges of code points that are spelled alike, each with the number of
bytes after the first. Surrogates are in none of them. -/
def blocks : List (Nat × Nat × Nat) :=
  [(0, 0x0, 0x7F), (1, 0x80, 0x7FF), (2, 0x800, 0xD7FF), (2, 0xE000, 0xFFFF),
    (3, 0x10000, 0x10FFFF)]

def ofRange (first last : Nat) : List ByteProduct :=
  blocks.flatMap fun (follow, low, high) =>
    if max first low ≤ min last high then
      spell (leadMark follow) follow (max first low) (min last high)
    else
      []

def ofBoundaries (boundaries : Boundaries) : List ByteProduct :=
  boundaries.ranges.flatMap fun (first, last) => ofRange first last

/-- The number of byte ranges that two products share at their start. -/
def sharedSize : ByteProduct → ByteProduct → Nat
  | first :: left, second :: right =>
      if first = second then sharedSize left right + 1 else 0
  | _, _ => 0

/-- The number of byte ranges in products, those at the start of a product left
out that the product before it starts with as well. -/
def stepCount (previous : ByteProduct) : List ByteProduct → Nat
  | [] => 0
  | product :: products =>
      (product.length - sharedSize previous product) +
        stepCount product products

end ByteProduct

end NamedCapture.Unicode
