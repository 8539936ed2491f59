import NamedCapture.Proofs.Slices

/-!
Contract: which parentheses of a pattern are structural, read character by
character.

A parenthesis is structural when it is neither escaped nor inside a character
class. Whether it is depends on the characters before it alone: never on other
parentheses, and never on byte positions.

Owns:
- the places a character may stand in, and how each character leads to the
  next place;
- the structural parentheses with their byte offsets, in order;
- the positions at which a pattern opens a group.

Does not own: which parentheses pair up.
-/

namespace NamedCapture

/-! ## Places -/

/-- Where a character stands. `classStart` is right after the bracket that opens
a class and `classNegated` right after the caret that negates one; a closing
bracket is literal in both. The depth counts the classes that are open. -/
inductive Place where
  | outside
  | escaped
  | classStart (depth : Nat)
  | classNegated (depth : Nat)
  | inside (depth : Nat)
  | escapedInside (depth : Nat)
deriving DecidableEq, Repr

namespace Place

/-- The place after a class is closed. -/
def leave (depth : Nat) : Place :=
  if depth = 1 then .outside else .inside (depth - 1)

/-- The place after a character that stands in a class, past its start. -/
def nextInside (depth : Nat) (character : Char) : Place :=
  if character = '\\' then .escapedInside depth
  else if character = '[' then .classStart (depth + 1)
  else if character = ']' then leave depth
  else .inside depth

/-- The place after a character. -/
def next (place : Place) (character : Char) : Place :=
  match place with
  | .outside =>
      if character = '\\' then .escaped
      else if character = '[' then .classStart 1
      else .outside
  | .escaped => .outside
  | .classStart depth =>
      if character = '^' then .classNegated depth
      else if character = ']' then .inside depth
      else nextInside depth character
  | .classNegated depth =>
      if character = ']' then .inside depth else nextInside depth character
  | .inside depth => nextInside depth character
  | .escapedInside depth => .inside depth

def after (place : Place) (text : Text) : Place :=
  text.foldl next place

@[simp] theorem after_nil (place : Place) : place.after [] = place := rfl

@[simp] theorem after_cons (place : Place) (character : Char) (rest : Text) :
    place.after (character :: rest) = (place.next character).after rest := rfl

theorem after_append (place : Place) (first second : Text) :
    place.after (first ++ second) = (place.after first).after second :=
  List.foldl_append

theorem next_outside {character : Char}
    (notEscape : character ≠ '\\') (notBracket : character ≠ '[') :
    next .outside character = .outside := by
  simp [next, notEscape, notBracket]

/-- Characters that neither escape nor open a class are passed outside. -/
theorem after_of_ordinary
    {text : Text} (notEscape : '\\' ∉ text) (notBracket : '[' ∉ text) :
    Place.outside.after text = .outside := by
  induction text with
  | nil => rfl
  | cons character text inductionHypothesis =>
      rw [List.mem_cons, not_or] at notEscape notBracket
      rw [after_cons, next_outside (Ne.symm notEscape.1) (Ne.symm notBracket.1)]
      exact inductionHypothesis notEscape.2 notBracket.2

end Place

/-! ## Structural parentheses -/

/-- A structural parenthesis and its byte offset. -/
inductive Parenthesis where
  | opening (offset : Nat)
  | closing (offset : Nat)
deriving DecidableEq, Repr

namespace Parenthesis

def offset : Parenthesis → Nat
  | .opening offset => offset
  | .closing offset => offset

/-- The byte offset of an opening parenthesis. -/
def openingOffset? : Parenthesis → Option Nat
  | .opening offset => some offset
  | .closing _ => none

theorem openingOffset?_eq_some_iff {parenthesis : Parenthesis} {offset : Nat} :
    parenthesis.openingOffset? = some offset ↔ parenthesis = .opening offset := by
  cases parenthesis <;> simp [openingOffset?]

theorem mem_filterMap_openingOffset?_iff {parentheses : List Parenthesis} {offset : Nat} :
    offset ∈ parentheses.filterMap openingOffset? ↔ .opening offset ∈ parentheses := by
  simp [List.mem_filterMap, openingOffset?_eq_some_iff]

end Parenthesis

namespace Place

def parenthesis? (place : Place) (offset : Nat) (character : Char) :
    Option Parenthesis :=
  if place = .outside then
    if character = '(' then some (.opening offset)
    else if character = ')' then some (.closing offset)
    else none
  else
    none

/-- The structural parentheses of a text that starts at a place and an
offset. -/
def parentheses (place : Place) (offset : Nat) : Text → List Parenthesis
  | [] => []
  | character :: rest =>
      (place.parenthesis? offset character).toList ++
        parentheses (place.next character) (offset + character.utf8Size) rest

@[simp] theorem parentheses_nil (place : Place) (offset : Nat) :
    place.parentheses offset [] = [] := rfl

end Place

namespace Text

/-- The structural parentheses of a pattern, left to right. -/
def parentheses (pattern : Text) : List Parenthesis :=
  Place.outside.parentheses 0 pattern

/-- The byte offsets of the structural opening parentheses of a pattern, at any
depth of nesting, left to right. -/
def openings (pattern : Text) : List Nat :=
  pattern.parentheses.filterMap Parenthesis.openingOffset?

/-- At an offset the pattern has an opening parenthesis that is neither escaped
nor in a class, and a body follows it. -/
def OpensAt (pattern : Text) (offset : Nat) (body : Text) : Prop :=
  ∃ before : Text, pattern = before ++ '(' :: body ∧
    before.byteLength = offset ∧ Place.outside.after before = .outside

end Text

namespace Place

theorem parentheses_outside_opening (offset : Nat) (rest : Text) :
    outside.parentheses offset ('(' :: rest) =
      .opening offset :: outside.parentheses (offset + 1) rest := rfl

theorem parentheses_outside_closing (offset : Nat) (rest : Text) :
    outside.parentheses offset (')' :: rest) =
      .closing offset :: outside.parentheses (offset + 1) rest := rfl

/-- A text is read on behind another one. -/
theorem parentheses_append (place : Place) (offset : Nat) (first second : Text) :
    place.parentheses offset (first ++ second) =
      place.parentheses offset first ++
        (place.after first).parentheses (offset + first.byteLength) second := by
  induction first generalizing place offset with
  | nil => rfl
  | cons character first inductionHypothesis =>
      rw [List.cons_append, parentheses, parentheses, inductionHypothesis, List.append_assoc,
        Text.byteLength_cons, Nat.add_assoc]
      rfl

/-- A character outside is structural exactly when it is a parenthesis. -/
theorem parenthesis?_eq_opening_iff
    {place : Place} {offset position : Nat} {character : Char} :
    place.parenthesis? offset character = some (.opening position) ↔
      place = .outside ∧ character = '(' ∧ offset = position := by
  unfold parenthesis?
  split
  · split
    · simp_all
    · split <;> simp_all
  · simp_all

theorem parenthesis?_eq_closing_iff
    {place : Place} {offset position : Nat} {character : Char} :
    place.parenthesis? offset character = some (.closing position) ↔
      place = .outside ∧ character = ')' ∧ offset = position := by
  unfold parenthesis?
  split
  · split
    · simp_all
    · split <;> simp_all
  · simp_all

/-- The parentheses found in a text are what its characters are where they stand. -/
theorem mem_parentheses_iff
    {place : Place} {offset : Nat} {text : Text} {parenthesis : Parenthesis} :
    parenthesis ∈ place.parentheses offset text ↔
      ∃ (before after : Text) (character : Char), text = before ++ character :: after ∧
        (place.after before).parenthesis? (offset + before.byteLength) character =
          some parenthesis := by
  induction text generalizing place offset with
  | nil => simp
  | cons character rest inductionHypothesis =>
      rw [parentheses, List.mem_append, Option.mem_toList, inductionHypothesis]
      constructor
      · rintro (here | ⟨before, after, found, rfl, structural⟩)
        · exact ⟨[], rest, character, rfl, here⟩
        · refine ⟨character :: before, after, found, rfl, ?_⟩
          rw [Text.byteLength_cons, ← Nat.add_assoc]
          exact structural
      · rintro ⟨before, after, found, split, structural⟩
        cases before with
        | nil =>
            obtain ⟨rfl, -⟩ := List.cons.inj split
            exact .inl structural
        | cons first before =>
            obtain ⟨rfl, restEq⟩ := List.cons.inj split
            rw [Text.byteLength_cons, ← Nat.add_assoc] at structural
            exact .inr ⟨before, after, found, restEq, structural⟩

/-- The opening parentheses found in a text are those that stand outside. -/
theorem opening_mem_parentheses_iff
    {place : Place} {offset position : Nat} {text : Text} :
    .opening position ∈ place.parentheses offset text ↔
      ∃ before body : Text, text = before ++ '(' :: body ∧
        offset + before.byteLength = position ∧
        place.after before = .outside := by
  simp only [mem_parentheses_iff, parenthesis?_eq_opening_iff]
  constructor
  · rintro ⟨before, body, _, split, placeEq, rfl, offsetEq⟩
    exact ⟨before, body, split, offsetEq, placeEq⟩
  · rintro ⟨before, body, split, offsetEq, placeEq⟩
    exact ⟨before, body, '(', split, placeEq, rfl, offsetEq⟩

theorem closing_mem_parentheses_iff
    {place : Place} {offset position : Nat} {text : Text} :
    .closing position ∈ place.parentheses offset text ↔
      ∃ before after : Text, text = before ++ ')' :: after ∧
        offset + before.byteLength = position ∧
        place.after before = .outside := by
  simp only [mem_parentheses_iff, parenthesis?_eq_closing_iff]
  constructor
  · rintro ⟨before, after, _, split, placeEq, rfl, offsetEq⟩
    exact ⟨before, after, split, offsetEq, placeEq⟩
  · rintro ⟨before, after, split, offsetEq, placeEq⟩
    exact ⟨before, after, ')', split, placeEq, rfl, offsetEq⟩

theorem offset_of_parenthesis?_eq_some
    {place : Place} {offset : Nat} {character : Char} {parenthesis : Parenthesis}
    (found : place.parenthesis? offset character = some parenthesis) :
    parenthesis.offset = offset := by
  unfold parenthesis? at found
  split at found
  · split at found
    · cases found
      rfl
    · split at found
      · cases found
        rfl
      · cases found
  · cases found

theorem offset_le_of_mem_parentheses
    {place : Place} {offset : Nat} {text : Text} {parenthesis : Parenthesis}
    (member : parenthesis ∈ place.parentheses offset text) :
    offset ≤ parenthesis.offset := by
  induction text generalizing place offset with
  | nil => simp at member
  | cons character rest inductionHypothesis =>
      rw [parentheses, List.mem_append, Option.mem_toList] at member
      rcases member with here | later
      · exact Nat.le_of_eq (offset_of_parenthesis?_eq_some here).symm
      · have bound := inductionHypothesis later
        omega

/-- Parentheses are found in the order of their offsets. -/
theorem parentheses_pairwise (place : Place) (offset : Nat) (text : Text) :
    (place.parentheses offset text).Pairwise fun first second =>
      first.offset < second.offset := by
  induction text generalizing place offset with
  | nil => simp
  | cons character rest inductionHypothesis =>
      rw [parentheses, List.pairwise_append]
      refine ⟨?_, inductionHypothesis _ _, ?_⟩
      · cases place.parenthesis? offset character <;> simp
      · intro first firstMember second secondMember
        rw [Option.mem_toList] at firstMember
        have firstOffset := offset_of_parenthesis?_eq_some firstMember
        have bound := offset_le_of_mem_parentheses secondMember
        have positive := character.utf8Size_pos
        omega

end Place

namespace Text

/-- The openings are exactly the positions at which the pattern opens a
group. -/
theorem mem_openings_iff {pattern : Text} {offset : Nat} :
    offset ∈ pattern.openings ↔ ∃ body, pattern.OpensAt offset body := by
  rw [openings, Parenthesis.mem_filterMap_openingOffset?_iff, parentheses,
    Place.opening_mem_parentheses_iff]
  simp only [Nat.zero_add]
  constructor
  · rintro ⟨before, body, split⟩
    exact ⟨body, before, split⟩
  · rintro ⟨body, before, split⟩
    exact ⟨before, body, split⟩

theorem openings_pairwise (pattern : Text) :
    pattern.openings.Pairwise (· < ·) := by
  rw [openings, List.pairwise_filterMap]
  refine (Place.parentheses_pairwise .outside 0 pattern).imp ?_
  intro first second ordered firstOffset firstEq secondOffset secondEq
  cases first <;> cases second <;>
    simp_all [Parenthesis.openingOffset?, Parenthesis.offset]

end Text

end NamedCapture
