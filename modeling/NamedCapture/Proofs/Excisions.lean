import Mathlib.Algebra.GroupWithZero.Nat
import NamedCapture.Pattern.Excision
import NamedCapture.Proofs.Slices

/-!
Contract: a text some parts of which are removed, and where the bytes that are
left stand.

Owns:
- the bytes outside some spans, and the offsets they move to;
- a text as a list of kept and removed segments, with the spans of the removed
  ones;
- how removed parts are put back.

Does not own: which parts are removed, or by what means.
-/

namespace NamedCapture

namespace Span

def covers (span : Span) (offset : Nat) : Bool :=
  span.start ≤ offset && offset < span.stop

theorem covers_iff {span : Span} {offset : Nat} :
    span.covers offset = true ↔ span.start ≤ offset ∧ offset < span.stop := by
  rw [covers, Bool.and_eq_true, decide_eq_true_eq, decide_eq_true_eq]

theorem covers_eq_false_iff {span : Span} {offset : Nat} :
    span.covers offset = false ↔ offset < span.start ∨ span.stop ≤ offset := by
  rw [covers, Bool.and_eq_false_iff, decide_eq_false_iff_not, decide_eq_false_iff_not,
    Nat.not_le, Nat.not_lt]

end Span

/-! ## Bytes outside some spans -/

namespace Excision

/-- Whether one of some spans covers an offset. -/
def covers (spans : List Span) (offset : Nat) : Bool :=
  spans.any (·.covers offset)

/-- The bytes that stand outside some spans, in order, when the first one stands
at an offset. -/
def bytesOutside (spans : List Span) (offset : Nat) (bytes : List UInt8) : List UInt8 :=
  ((bytes.zipIdx offset).filter fun entry => !covers spans entry.2).map Prod.fst

/-- The number of covered offsets below an offset. -/
def removedBelow (spans : List Span) (offset : Nat) : Nat :=
  (List.range offset).countP (covers spans)

/-- Where a byte at an offset stands once everything covered is removed. -/
def shift (spans : List Span) (offset : Nat) : Nat :=
  offset - removedBelow spans offset

def insertBytes (offset : Nat) (inserted bytes : List UInt8) : List UInt8 :=
  bytes.take offset ++ (inserted ++ bytes.drop offset)

/-- Put the covered bytes of a source back at their shifted offsets. The last span
goes first, so that no offset has moved when it is used. -/
def reinsert (spans : List Span) (source bytes : List UInt8) : List UInt8 :=
  spans.foldr
    (fun span restored =>
      insertBytes (shift spans span.start)
        ((source.drop span.start).take span.width) restored)
    bytes

theorem covers_iff {spans : List Span} {offset : Nat} :
    covers spans offset = true ↔
      ∃ span ∈ spans, span.start ≤ offset ∧ offset < span.stop := by
  simp only [covers, List.any_eq_true, Span.covers_iff]

theorem covers_cons (first : Span) (later : List Span) (offset : Nat) :
    covers (first :: later) offset = (first.covers offset || covers later offset) := rfl

/-- Below the start of every span nothing is covered. -/
theorem covers_eq_false
    {spans : List Span} {offset : Nat} (before : ∀ span ∈ spans, offset < span.start) :
    covers spans offset = false := by
  rw [Bool.eq_false_iff, ne_eq, covers_iff]
  rintro ⟨span, member, lower, -⟩
  have start := before span member
  omega

theorem bytesOutside_append (spans : List Span) (offset : Nat) (front back : List UInt8) :
    bytesOutside spans offset (front ++ back) =
      bytesOutside spans offset front ++
        bytesOutside spans (offset + front.length) back := by
  simp only [bytesOutside, List.zipIdx_append, List.filter_append, List.map_append]

/-- Bytes at uncovered offsets are all left. -/
theorem bytesOutside_eq_self
    {spans : List Span} {offset : Nat} {bytes : List UInt8}
    (clear : ∀ position, offset ≤ position → position < offset + bytes.length →
      covers spans position = false) :
    bytesOutside spans offset bytes = bytes := by
  have all : ∀ entry ∈ bytes.zipIdx offset, (!covers spans entry.2) = true := by
    intro entry member
    have bounds := List.mem_zipIdx member
    rw [clear entry.2 bounds.1 (by omega)]
    rfl
  rw [bytesOutside, List.filter_eq_self.mpr all, List.zipIdx_map_fst]

/-- Bytes at covered offsets are all removed. -/
theorem bytesOutside_eq_nil
    {spans : List Span} {offset : Nat} {bytes : List UInt8}
    (covered : ∀ position, offset ≤ position → position < offset + bytes.length →
      covers spans position = true) :
    bytesOutside spans offset bytes = [] := by
  have none : ∀ entry ∈ bytes.zipIdx offset, ¬ (!covers spans entry.2) = true := by
    intro entry member
    have bounds := List.mem_zipIdx member
    rw [covered entry.2 bounds.1 (by omega)]
    exact Bool.false_ne_true
  rw [bytesOutside, List.filter_eq_nil_iff.mpr none, List.map_nil]

theorem removedBelow_succ (spans : List Span) (offset : Nat) :
    removedBelow spans (offset + 1) =
      removedBelow spans offset + if covers spans offset then 1 else 0 := by
  rw [removedBelow, removedBelow, List.range_succ, List.countP_append, List.countP_singleton]

theorem removedBelow_le (spans : List Span) (offset : Nat) :
    removedBelow spans offset ≤ offset := by
  have bound := List.countP_le_length (p := covers spans) (l := List.range offset)
  rwa [List.length_range] at bound

/-- The bytes left of a text are as many as its length says after the shift. -/
theorem length_bytesOutside (spans : List Span) (bytes : List UInt8) :
    (bytesOutside spans 0 bytes).length = shift spans bytes.length := by
  have counted := (List.range bytes.length).length_eq_countP_add_countP (covers spans)
  rw [List.length_range] at counted
  have left : (bytesOutside spans 0 bytes).length =
      (List.range bytes.length).countP fun position => !covers spans position := by
    rw [bytesOutside, List.length_map, ← List.countP_eq_length_filter,
      List.range_eq_range', ← List.zipIdx_map_snd 0 bytes, List.countP_map]
    rfl
  have negated : (List.range bytes.length).countP (fun position => !covers spans position) =
      (List.range bytes.length).countP fun position => decide ¬ covers spans position = true := by
    congr 1
    funext position
    cases covers spans position <;> rfl
  rw [left, negated, shift, removedBelow]
  omega

/-- A span before all others removes what it covers of the bytes below an offset,
whatever the others remove. -/
theorem removedBelow_cons
    {first : Span} {later : List Span} (apart : ∀ span ∈ later, first.stop ≤ span.start)
    (offset : Nat) :
    removedBelow (first :: later) offset =
      (min offset first.stop - first.start) + removedBelow later offset := by
  induction offset with
  | zero => simp [removedBelow]
  | succ offset inductionHypothesis =>
      rw [removedBelow_succ, removedBelow_succ, inductionHypothesis, covers_cons]
      by_cases inFirst : first.covers offset = true
      · have bounds := Span.covers_iff.mp inFirst
        have notLater : covers later offset = false := by
          apply covers_eq_false
          intro span member
          have order := apart span member
          omega
        rw [inFirst, notLater]
        simp only [Bool.or_false, if_true, Bool.false_eq_true, if_false]
        omega
      · rw [Bool.not_eq_true] at inFirst
        have bounds := Span.covers_eq_false_iff.mp inFirst
        rw [inFirst, Bool.false_or]
        omega

/-- Below the start of every span nothing is removed. -/
theorem removedBelow_eq_zero
    {spans : List Span} {offset : Nat} (before : ∀ span ∈ spans, offset ≤ span.start) :
    removedBelow spans offset = 0 := by
  rw [removedBelow, List.countP_eq_zero]
  intro position member
  rw [Bool.not_eq_true]
  apply covers_eq_false
  intro span spanMember
  have small := List.mem_range.mp member
  have start := before span spanMember
  omega

end Excision

/-! ## Kept and removed segments -/

/-- A part of a text, with what becomes of it. -/
inductive Segment where
  | kept (text : Text)
  | removed (text : Text)
deriving DecidableEq, Repr

namespace Segment

def text : Segment → Text
  | .kept text => text
  | .removed text => text

def keptText : Segment → Text
  | .kept text => text
  | .removed _ => []

/-- The text before anything is removed. -/
def whole (segments : List Segment) : Text :=
  segments.flatMap text

/-- The text that is left. -/
def remainder (segments : List Segment) : Text :=
  segments.flatMap keptText

/-- The spans of the removed segments, when the first segment starts at an
offset. -/
def removedSpans (offset : Nat) : List Segment → List Span
  | [] => []
  | .kept text :: segments => removedSpans (offset + text.byteLength) segments
  | .removed text :: segments =>
      ⟨offset, offset + text.byteLength⟩ ::
        removedSpans (offset + text.byteLength) segments

theorem start_of_mem_removedSpans
    {offset : Nat} {segments : List Segment} {span : Span}
    (member : span ∈ removedSpans offset segments) :
    offset ≤ span.start := by
  induction segments generalizing offset with
  | nil => cases member
  | cons segment segments inductionHypothesis =>
      cases segment with
      | kept text =>
          have later := inductionHypothesis member
          omega
      | removed text =>
          rcases List.mem_cons.mp member with rfl | member
          · exact Nat.le_refl offset
          · have later := inductionHypothesis member
            omega

/-- Removed segments stand one after the other. -/
theorem removedSpans_pairwise (offset : Nat) (segments : List Segment) :
    (removedSpans offset segments).Pairwise fun first second =>
      first.stop ≤ second.start := by
  induction segments generalizing offset with
  | nil => exact .nil
  | cons segment segments inductionHypothesis =>
      cases segment with
      | kept text => exact inductionHypothesis _
      | removed text =>
          exact .cons (fun span member => start_of_mem_removedSpans member)
            (inductionHypothesis _)

/-- The bytes outside the removed segments are the bytes of the kept ones. Any
spans do that cover the same offsets from the first segment on. -/
theorem bytesOutside_whole
    (segments : List Segment) (offset : Nat) {spans : List Span}
    (same : ∀ position, offset ≤ position →
      Excision.covers spans position =
        Excision.covers (removedSpans offset segments) position) :
    Excision.bytesOutside spans offset (whole segments).bytes =
      (remainder segments).bytes := by
  induction segments generalizing offset with
  | nil => rfl
  | cons segment segments inductionHypothesis =>
      have wholeEq : whole (segment :: segments) = segment.text ++ whole segments := rfl
      have remainderEq :
          remainder (segment :: segments) = segment.keptText ++ remainder segments := rfl
      rw [wholeEq, remainderEq, Text.bytes_append, Text.bytes_append,
        Excision.bytesOutside_append, Text.length_bytes]
      cases segment with
      | kept text =>
          have here : Excision.bytesOutside spans offset text.bytes = text.bytes := by
            apply Excision.bytesOutside_eq_self
            intro position lower upper
            rw [Text.length_bytes] at upper
            rw [same position lower]
            apply Excision.covers_eq_false
            intro span member
            have start : offset + text.byteLength ≤ span.start :=
              start_of_mem_removedSpans member
            omega
          have later := inductionHypothesis (offset + text.byteLength)
            fun position lower => same position (by omega)
          rw [Segment.text, keptText, here, later]
      | removed text =>
          have here : Excision.bytesOutside spans offset text.bytes = [] := by
            apply Excision.bytesOutside_eq_nil
            intro position lower upper
            rw [Text.length_bytes] at upper
            rw [same position lower, Excision.covers_iff]
            exact ⟨_, List.mem_cons_self, lower, upper⟩
          have later := inductionHypothesis (offset + text.byteLength) fun position lower => by
            have passed : Span.covers ⟨offset, offset + text.byteLength⟩ position = false :=
              Span.covers_eq_false_iff.mpr (.inr lower)
            rw [same position (by omega), removedSpans, Excision.covers_cons, passed,
              Bool.false_or]
          rw [Segment.text, keptText, here, later]
          rfl

/-- What is left and what is removed have as many bytes as the whole. -/
theorem byteLength_remainder_add (offset : Nat) (segments : List Segment) :
    (remainder segments).byteLength +
        ((removedSpans offset segments).map Span.width).sum =
      (whole segments).byteLength := by
  induction segments generalizing offset with
  | nil => rfl
  | cons segment segments inductionHypothesis =>
      have later := inductionHypothesis (offset + segment.text.byteLength)
      have wholeEq : whole (segment :: segments) = segment.text ++ whole segments := rfl
      have remainderEq :
          remainder (segment :: segments) = segment.keptText ++ remainder segments := rfl
      rw [wholeEq, remainderEq, Text.byteLength_append, Text.byteLength_append]
      cases segment with
      | kept text =>
          rw [keptText, removedSpans, Segment.text]
          rw [Segment.text] at later
          omega
      | removed text =>
          have widthEq : Span.width ⟨offset, offset + text.byteLength⟩ = text.byteLength :=
            Nat.add_sub_cancel_left offset _
          rw [keptText, removedSpans, Segment.text, List.map_cons, List.sum_cons, widthEq,
            Text.byteLength_nil]
          rw [Segment.text] at later
          omega

/-- Removed segments are put back by inserting their bytes where the kept ones have
moved to. Behind the first offset the shift is by what was removed so far and by
what the spans of the segments remove. -/
theorem reinsert_removedSpans
    (segments : List Segment) (before front : List UInt8) (offset removed : Nat)
    {spans : List Span} {source : List UInt8}
    (sourceEq : source = before ++ (whole segments).bytes)
    (beforeEq : before.length = offset)
    (frontEq : offset = front.length + removed)
    (removedEq : ∀ position, offset ≤ position →
      Excision.removedBelow spans position =
        removed + Excision.removedBelow (removedSpans offset segments) position) :
    (removedSpans offset segments).foldr
        (fun span restored =>
          Excision.insertBytes (Excision.shift spans span.start)
            ((source.drop span.start).take span.width) restored)
        (front ++ (remainder segments).bytes) =
      front ++ (whole segments).bytes := by
  induction segments generalizing before front offset removed with
  | nil => rfl
  | cons segment segments inductionHypothesis =>
      have wholeEq : whole (segment :: segments) = segment.text ++ whole segments := rfl
      have remainderEq :
          remainder (segment :: segments) = segment.keptText ++ remainder segments := rfl
      rw [wholeEq, Text.bytes_append] at sourceEq
      rw [wholeEq, remainderEq, Text.bytes_append, Text.bytes_append]
      cases segment with
      | kept text =>
          rw [Segment.text] at sourceEq ⊢
          rw [keptText, removedSpans, ← List.append_assoc, ← List.append_assoc]
          refine inductionHypothesis (before ++ text.bytes) (front ++ text.bytes)
            (offset + text.byteLength) removed (by rw [sourceEq, List.append_assoc]) ?_ ?_ ?_
          · rw [List.length_append, Text.length_bytes, beforeEq]
          · rw [List.length_append, Text.length_bytes]
            omega
          · intro position lower
            exact removedEq position (by omega)
      | removed text =>
          rw [Segment.text] at sourceEq ⊢
          have spansEq : removedSpans offset (.removed text :: segments) =
              ⟨offset, offset + text.byteLength⟩ ::
                removedSpans (offset + text.byteLength) segments := rfl
          have apart : ∀ span ∈ removedSpans (offset + text.byteLength) segments,
              offset + text.byteLength ≤ span.start :=
            fun span member => start_of_mem_removedSpans member
          have later := inductionHypothesis (before ++ text.bytes) front
            (offset + text.byteLength) (removed + text.byteLength)
            (by rw [sourceEq, List.append_assoc])
            (by rw [List.length_append, Text.length_bytes, beforeEq]) (by omega)
            (fun position lower => by
              rw [removedEq position (by omega), spansEq, Excision.removedBelow_cons apart]
              simp only
              omega)
          have place : Excision.shift spans offset = front.length := by
            have nothing :
                Excision.removedBelow (removedSpans offset (.removed text :: segments)) offset =
                  0 :=
              Excision.removedBelow_eq_zero fun span member => start_of_mem_removedSpans member
            rw [Excision.shift, removedEq offset (Nat.le_refl offset), nothing]
            omega
          have cut : (source.drop offset).take
              (Span.width ⟨offset, offset + text.byteLength⟩) = text.bytes := by
            rw [Span.width, Nat.add_sub_cancel_left, sourceEq, List.drop_left' beforeEq,
              List.take_left' (Text.length_bytes text)]
          rw [keptText, spansEq, List.foldr_cons]
          simp only
          rw [Text.bytes, List.flatMap_nil, List.nil_append, later, place, cut,
            Excision.insertBytes, List.take_left, List.drop_left]

end Segment

end NamedCapture
