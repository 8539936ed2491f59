import NamedCapture.Text

/-!
Contract: what byte offsets mean in a text put together from known parts.

Owns:
- byte lengths and bytes of texts put together;
- the prefix, suffix and slice at an offset between two parts;
- the texts on both sides of an offset, which determine each other;
- the spans that slice a text, and the bytes of what they cut.

Does not own: how an offset between two parts was found.
-/

namespace NamedCapture

namespace Text

/-! ## Byte lengths -/

@[simp] theorem byteLength_nil : byteLength [] = 0 := rfl

@[simp] theorem byteLength_cons (character : Char) (rest : Text) :
    byteLength (character :: rest) = character.utf8Size + byteLength rest := rfl

@[simp] theorem byteLength_append (before after : Text) :
    byteLength (before ++ after) = byteLength before + byteLength after := by
  induction before with
  | nil => simp
  | cons character before inductionHypothesis =>
      rw [List.cons_append, byteLength_cons, byteLength_cons, inductionHypothesis]
      omega

/-- A text whose characters all take one byte has as many bytes as
characters. -/
theorem byteLength_eq_length {text : Text}
    (narrow : ∀ character ∈ text, character.utf8Size = 1) :
    byteLength text = text.length := by
  induction text with
  | nil => rfl
  | cons character rest inductionHypothesis =>
      have first := narrow character (by simp)
      have later := inductionHypothesis fun other member =>
        narrow other (by simp [member])
      rw [byteLength_cons, List.length_cons, first, later]
      omega

theorem byteLength_eq_zero_iff {text : Text} : byteLength text = 0 ↔ text = [] := by
  cases text with
  | nil => simp
  | cons character rest =>
      have positive := character.utf8Size_pos
      rw [byteLength_cons]
      constructor
      · intro zero
        omega
      · intro empty
        cases empty

/-! ## Bytes -/

@[simp] theorem bytes_append (before after : Text) :
    bytes (before ++ after) = bytes before ++ bytes after :=
  List.flatMap_append

@[simp] theorem length_bytes (text : Text) : text.bytes.length = text.byteLength := by
  induction text with
  | nil => rfl
  | cons character rest inductionHypothesis =>
      have first : bytes (character :: rest) = String.utf8EncodeChar character ++ bytes rest :=
        List.flatMap_cons
      rw [first, List.length_append, inductionHypothesis, byteLength_cons,
        String.length_utf8EncodeChar]

/-! ## Prefixes, suffixes and slices -/

@[simp] theorem dropBytes?_zero (text : Text) : dropBytes? 0 text = some text := by
  cases text <;> rfl

@[simp] theorem takeBytes?_zero (text : Text) : takeBytes? 0 text = some [] := by
  cases text <;> rfl

theorem dropBytes?_cons (character : Char) (rest : Text) (count : Nat) :
    dropBytes? (character.utf8Size + count) (character :: rest) =
      dropBytes? count rest := by
  have positive := character.utf8Size_pos
  obtain ⟨size, sizeEq⟩ : ∃ size, character.utf8Size = size + 1 :=
    ⟨character.utf8Size - 1, by omega⟩
  rw [show character.utf8Size + count = (size + count) + 1 by omega, dropBytes?,
    if_pos (by omega)]
  congr 1
  omega

theorem takeBytes?_cons (character : Char) (rest : Text) (count : Nat) :
    takeBytes? (character.utf8Size + count) (character :: rest) =
      (takeBytes? count rest).map (character :: ·) := by
  have positive := character.utf8Size_pos
  obtain ⟨size, sizeEq⟩ : ∃ size, character.utf8Size = size + 1 :=
    ⟨character.utf8Size - 1, by omega⟩
  rw [show character.utf8Size + count = (size + count) + 1 by omega, takeBytes?,
    if_pos (by omega)]
  congr 2
  omega

@[simp] theorem dropBytes?_append (before after : Text) :
    dropBytes? (byteLength before) (before ++ after) = some after := by
  induction before with
  | nil => simp
  | cons character before inductionHypothesis =>
      rw [List.cons_append, byteLength_cons, dropBytes?_cons, inductionHypothesis]

@[simp] theorem takeBytes?_append (before after : Text) :
    takeBytes? (byteLength before) (before ++ after) = some before := by
  induction before with
  | nil => simp
  | cons character before inductionHypothesis =>
      rw [List.cons_append, byteLength_cons, takeBytes?_cons, inductionHypothesis]
      rfl

/-- The slice between the ends of two known prefixes. -/
theorem slice?_append (before middle after : Text) {start stop : Nat}
    (startEq : start = byteLength before)
    (stopEq : stop = byteLength before + byteLength middle) :
    slice? (before ++ (middle ++ after)) start stop = some middle := by
  subst startEq stopEq
  rw [slice?, if_pos (by omega), dropBytes?_append, Nat.add_sub_cancel_left]
  exact takeBytes?_append middle after

/-- Two ways to cut a text at one offset are the same. -/
theorem append_inj_of_byteLength {before after front back : Text}
    (same : before ++ after = front ++ back)
    (lengths : before.byteLength = front.byteLength) :
    before = front ∧ after = back := by
  have takenBefore := takeBytes?_append before after
  have takenFront := takeBytes?_append front back
  rw [same, lengths, takenFront, Option.some.injEq] at takenBefore
  subst takenBefore
  exact ⟨rfl, List.append_cancel_left same⟩

/-- Of two ways to cut a text, the later one begins with what the earlier one
does. -/
theorem exists_between_of_append_eq {before rest front after : Text}
    (same : before ++ rest = front ++ after)
    (ordered : before.byteLength ≤ front.byteLength) :
    ∃ middle, front = before ++ middle ∧ rest = middle ++ after := by
  rcases List.append_eq_append_iff.mp same with found | ⟨gap, beforeEq, afterEq⟩
  · exact found
  · have noGap : gap = [] := by
      rw [← byteLength_eq_zero_iff]
      rw [beforeEq, byteLength_append] at ordered
      omega
    subst noGap
    exact ⟨[], by rw [beforeEq]; simp, afterEq.symm⟩

theorem exists_of_dropBytes? {count : Nat} {text rest : Text}
    (dropped : dropBytes? count text = some rest) :
    ∃ before, text = before ++ rest ∧ before.byteLength = count := by
  induction text generalizing count with
  | nil =>
      cases count with
      | zero =>
          rw [dropBytes?_zero, Option.some.injEq] at dropped
          exact ⟨[], by rw [← dropped]; rfl, rfl⟩
      | succ count => cases dropped
  | cons character text inductionHypothesis =>
      cases count with
      | zero =>
          rw [dropBytes?_zero, Option.some.injEq] at dropped
          exact ⟨[], by rw [← dropped]; rfl, rfl⟩
      | succ count =>
          rw [dropBytes?] at dropped
          split at dropped
          · rename_i fits
            obtain ⟨before, rfl, beforeEq⟩ := inductionHypothesis dropped
            refine ⟨character :: before, rfl, ?_⟩
            rw [byteLength_cons]
            omega
          · cases dropped

theorem exists_of_takeBytes? {count : Nat} {text front : Text}
    (taken : takeBytes? count text = some front) :
    ∃ after, text = front ++ after ∧ front.byteLength = count := by
  induction text generalizing count front with
  | nil =>
      cases count with
      | zero =>
          cases taken
          exact ⟨[], rfl, rfl⟩
      | succ count => cases taken
  | cons character text inductionHypothesis =>
      cases count with
      | zero =>
          cases taken
          exact ⟨character :: text, rfl, rfl⟩
      | succ count =>
          rw [takeBytes?] at taken
          split at taken
          · rename_i fits
            obtain ⟨later, laterTaken, rfl⟩ := Option.map_eq_some_iff.mp taken
            obtain ⟨after, rfl, laterEq⟩ := inductionHypothesis laterTaken
            refine ⟨after, rfl, ?_⟩
            rw [byteLength_cons]
            omega
          · cases taken

/-- What a slice is: the text between a prefix that ends at its start and a suffix
that starts at its end. -/
theorem slice?_eq_some_iff {text middle : Text} {start stop : Nat} :
    text.slice? start stop = some middle ↔
      ∃ before after, text = before ++ (middle ++ after) ∧ start = before.byteLength ∧
        stop = before.byteLength + middle.byteLength := by
  constructor
  · intro sliced
    rw [slice?] at sliced
    split at sliced
    · rename_i ordered
      obtain ⟨rest, dropped, taken⟩ := Option.bind_eq_some_iff.mp sliced
      obtain ⟨before, rfl, beforeEq⟩ := exists_of_dropBytes? dropped
      obtain ⟨after, rfl, middleEq⟩ := exists_of_takeBytes? taken
      exact ⟨before, after, rfl, beforeEq.symm, by omega⟩
    · cases sliced
  · rintro ⟨before, after, rfl, startEq, stopEq⟩
    exact slice?_append before middle after startEq stopEq

/-! ## Spans that slice a text -/

/-- Whether a byte offset splits no character of a text: some characters end at
it. The end of the text is a boundary, and no offset past it is. -/
def IsBoundary (text : Text) (offset : Nat) : Prop :=
  ∃ before after, text = before ++ after ∧ before.byteLength = offset

/-- What a span needs to slice a text. -/
structure Admits (text : Text) (span : Span) : Prop where
  ordered : span.start ≤ span.stop
  inside : span.stop ≤ text.byteLength
  startBoundary : text.IsBoundary span.start
  stopBoundary : text.IsBoundary span.stop

/-- The bytes of a text in a span, counted without regard to characters. -/
def bytesAt (text : Text) (span : Span) : List UInt8 :=
  (text.bytes.drop span.start).take (span.stop - span.start)

theorem admits_of_sliceAt? {text middle : Text} {span : Span}
    (sliced : text.sliceAt? span = some middle) : text.Admits span := by
  rw [sliceAt?] at sliced
  obtain ⟨before, after, rfl, startEq, stopEq⟩ := slice?_eq_some_iff.mp sliced
  refine ⟨by omega, ?_, ⟨before, middle ++ after, rfl, startEq.symm⟩,
    ⟨before ++ middle, after, by rw [List.append_assoc], ?_⟩⟩
  · rw [byteLength_append, byteLength_append]
    omega
  · rw [byteLength_append]
    exact stopEq.symm

theorem Admits.exists_sliceAt? {text : Text} {span : Span} (admitted : text.Admits span) :
    ∃ middle, text.sliceAt? span = some middle := by
  obtain ⟨before, rest, textEq, startEq⟩ := admitted.startBoundary
  obtain ⟨front, after, sameText, stopEq⟩ := admitted.stopBoundary
  have ordered := admitted.ordered
  rw [textEq] at sameText
  obtain ⟨middle, frontEq, restEq⟩ := exists_between_of_append_eq sameText (by omega)
  refine ⟨middle, slice?_eq_some_iff.mpr ⟨before, after, ?_, startEq.symm, ?_⟩⟩
  · rw [textEq, restEq]
  · rw [← stopEq, frontEq, byteLength_append]

/-- A slice has the bytes of its span. -/
theorem bytes_of_sliceAt? {text middle : Text} {span : Span}
    (sliced : text.sliceAt? span = some middle) : middle.bytes = text.bytesAt span := by
  rw [sliceAt?] at sliced
  obtain ⟨before, after, rfl, startEq, stopEq⟩ := slice?_eq_some_iff.mp sliced
  have width : span.stop - span.start = middle.bytes.length := by
    rw [length_bytes]
    omega
  rw [bytesAt, width, bytes_append, bytes_append, startEq, ← length_bytes before,
    List.drop_left, List.take_left]

/-! ## Characters between two offsets -/

/-- A character between the ends of a part of a text belongs to that part. -/
theorem mem_of_append_eq
    {before middle after front back : Text} {character : Char}
    (same : before ++ (middle ++ after) = front ++ character :: back)
    (lower : before.byteLength ≤ front.byteLength)
    (upper : front.byteLength < before.byteLength + middle.byteLength) :
    character ∈ middle := by
  obtain ⟨gap, rfl, rest⟩ := exists_between_of_append_eq same lower
  rw [byteLength_append] at upper
  rcases List.append_eq_append_iff.mp rest with ⟨beyond, gapEq, -⟩ | ⟨inside, middleEq, insideEq⟩
  · rw [gapEq, byteLength_append] at upper
    omega
  · cases inside with
    | nil =>
        rw [middleEq, List.append_nil] at upper
        omega
    | cons first inside =>
        obtain ⟨rfl, -⟩ := List.cons.inj insideEq
        rw [middleEq]
        exact List.mem_append_right _ List.mem_cons_self

end Text

end NamedCapture
