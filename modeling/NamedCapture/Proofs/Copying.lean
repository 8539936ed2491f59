import NamedCapture.Proofs.Excisions

/-!
Contract: what is copied when any spans at all are cut out of a text.

The cursor is the furthest end of the spans that have been passed. A step copies the
text from the cursor to the start of its span, if that is a slice, so what is copied
stands between what was copied before and the span; and nothing behind a span that
has been passed is copied unless it lies past that span's end.

Before the first step room is reserved. Only this can stop the program, and only if
it checks its sums and the spans are longer, all together, than a word can tell.

Owns:
- the sum of the widths in each build, and when there is one;
- the cursor and the copy of each step;
- the order of the copies, and their distance from the spans passed;
- the bytes that are left by sorted spans, which may overlap, be empty, or contain
  each other.

Does not own: the choice of spans. Those of a pattern's annotations never overlap.
-/

namespace NamedCapture

/-! ## Room for what is left -/

namespace Overflow

theorem addWidths?_wraps
    {total : Nat} (fits : total < UInt64.size) (spans : List Span) :
    wraps.addWidths? total spans =
      some ((total + (spans.map Span.width).sum) % UInt64.size) := by
  induction spans generalizing total with
  | nil => exact congrArg some (Nat.mod_eq_of_lt fits).symm
  | cons span spans inductionHypothesis =>
      have added : wraps.add? total span.width =
          some ((total + span.width) % UInt64.size) := by
        rw [add?]
        split
        · rename_i small
          rw [Nat.mod_eq_of_lt small]
        · rfl
      have remainder : (total + span.width) % UInt64.size < UInt64.size :=
        Nat.mod_lt _ (by decide)
      rw [addWidths?, added, Option.bind_some, inductionHypothesis remainder, Nat.mod_add_mod,
        List.map_cons, List.sum_cons, Nat.add_assoc]

theorem addWidths?_stops
    {total : Nat} (fits : total < UInt64.size) (spans : List Span) :
    stops.addWidths? total spans =
      if total + (spans.map Span.width).sum < UInt64.size then
        some (total + (spans.map Span.width).sum)
      else none := by
  induction spans generalizing total with
  | nil => exact (if_pos fits).symm
  | cons span spans inductionHypothesis =>
      rw [addWidths?, add?, List.map_cons, List.sum_cons, ← Nat.add_assoc]
      by_cases small : total + span.width < UInt64.size
      · rw [if_pos small, Option.bind_some, inductionHypothesis small]
      · -- The sum only grows, so it cannot fit later.
        rw [if_neg small, if_neg (by omega)]
        rfl

/-- A sum that fits is the same in both builds. -/
theorem addWidths?_of_fits
    (overflow : Overflow) {total : Nat} {spans : List Span}
    (fits : total + (spans.map Span.width).sum < UInt64.size) :
    overflow.addWidths? total spans = some (total + (spans.map Span.width).sum) := by
  have start : total < UInt64.size := by omega
  cases overflow with
  | stops => rw [addWidths?_stops start, if_pos fits]
  | wraps => rw [addWidths?_wraps start, Nat.mod_eq_of_lt fits]

end Overflow

namespace Text

def copied (text : Text) (copy : Option Span) : Text :=
  (copy.bind text.sliceAt?).getD []

end Text

end NamedCapture
