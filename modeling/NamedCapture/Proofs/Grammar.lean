import NamedCapture.Pattern.Scan
import NamedCapture.Proofs.Places

/-!
Contract: the grammar of group structure, as derivations that leave a known
rest of the text over.

A pattern is a sequence of items. An item is an escape, a character class, a
group, or any other single character. A derivation is checked with the rest of
the text present, because a class at the end of a text need not be closed, and
a backslash there stands alone.

Owns:
- the grammar and the outline of a derived text;
- the text of an outline, the groups in it and their offsets;
- the structural parentheses of a derived text.

Does not own: the scan.
-/

namespace NamedCapture

/-! ## Classes and other items -/

def Text.afterCaret : Text → Text
  | '^' :: rest => rest
  | text => text

def Text.afterBracket : Text → Text
  | ']' :: rest => rest
  | text => text

/-- The contents of a class whose opening bracket comes before the text. A caret
that comes first negates the class, and a closing bracket that comes next is
literal. -/
def Text.classContents (text : Text) : Text :=
  text.afterCaret.afterBracket

theorem Text.afterCaret_cons (character : Char) (rest : Text) :
    afterCaret (character :: rest) = if character = '^' then rest else character :: rest := by
  unfold afterCaret
  split <;> simp_all

theorem Text.afterBracket_cons (character : Char) (rest : Text) :
    afterBracket (character :: rest) =
      if character = ']' then rest else character :: rest := by
  unfold afterBracket
  split <;> simp_all

theorem Text.afterBracket_eq_self
    {text : Text} (noBracket : ∀ rest, text = ']' :: rest → False) :
    text.afterBracket = text := by
  unfold afterBracket
  split
  · exact absurd rfl (noBracket _)
  · rfl

theorem Text.afterCaret_eq_self
    {text : Text} (noCaret : ∀ rest, text = '^' :: rest → False) :
    text.afterCaret = text := by
  unfold afterCaret
  split
  · exact absurd rfl (noCaret _)
  · rfl

/-- The contents of a class and its closing bracket, and the rest of the text.
A class that is not closed has no rest. -/
inductive ClassTail : Text → Text → Prop where
  | close (rest : Text) : ClassTail (']' :: rest) rest
  | unterminated : ClassTail [] []
  | escape {text rest : Text} (character : Char)
      (later : ClassTail text rest) :
      ClassTail ('\\' :: character :: text) rest
  | loneBackslash : ClassTail ['\\'] []
  | nested {text middle rest : Text}
      (inner : ClassTail text.classContents middle)
      (later : ClassTail middle rest) :
      ClassTail ('[' :: text) rest
  | member {text rest : Text} {character : Char}
      (notEscape : character ≠ '\\')
      (notOpen : character ≠ '[')
      (notClose : character ≠ ']')
      (later : ClassTail text rest) :
      ClassTail (character :: text) rest

/-- An item other than a group, and the rest of the text. -/
inductive PlainItem : Text → Text → Prop where
  | escape (character : Char) (rest : Text) :
      PlainItem ('\\' :: character :: rest) rest
  | loneBackslash : PlainItem ['\\'] []
  | bracket {text rest : Text} (contents : ClassTail text.classContents rest) :
      PlainItem ('[' :: text) rest
  | character {character : Char} (rest : Text)
      (notEscape : character ≠ '\\')
      (notBracket : character ≠ '[')
      (notOpen : character ≠ '(')
      (notClose : character ≠ ')') :
      PlainItem (character :: rest) rest

/-! ## Outlines -/

/-- A sequence of items. Of an item other than a group only its text is
known. -/
inductive Outline where
  | done
  | plain (text : Text) (rest : Outline)
  | group (body rest : Outline)
deriving DecidableEq, Repr

/-- A text derives an outline and leaves a rest over. -/
inductive Derives : Text → Outline → Text → Prop where
  | done (text : Text) : Derives text .done text
  | plain {text item middle rest : Text} {outline : Outline}
      (split : text = item ++ middle)
      (read : PlainItem text middle)
      (later : Derives middle outline rest) :
      Derives text (.plain item outline) rest
  | group {text middle rest : Text} {body outline : Outline}
      (inner : Derives text body (')' :: middle))
      (later : Derives middle outline rest) :
      Derives ('(' :: text) (.group body outline) rest

namespace Outline

def text : Outline → Text
  | .done => []
  | .plain item rest => item ++ rest.text
  | .group body rest => '(' :: (body.text ++ ')' :: rest.text)

def width (outline : Outline) : Nat :=
  outline.text.byteLength

/-- The offsets of the opening parentheses of all groups, at any depth, when the
outline starts at an offset. -/
def openings (offset : Nat) : Outline → List Nat
  | .done => []
  | .plain item rest => rest.openings (offset + item.byteLength)
  | .group body rest =>
      offset :: (body.openings (offset + 1) ++ rest.openings (offset + body.width + 2))

/-- The outermost groups, when the outline starts at an offset: the span of each
with its parentheses, and the openings strictly inside it. -/
def groups (offset : Nat) : Outline → List ScannedGroup
  | .done => []
  | .plain item rest => rest.groups (offset + item.byteLength)
  | .group body rest =>
      ⟨⟨offset, offset + body.width + 2⟩, body.openings (offset + 1)⟩ ::
        rest.groups (offset + body.width + 2)

/-- The structural parentheses, when the outline starts at an offset. -/
def parentheses (offset : Nat) : Outline → List Parenthesis
  | .done => []
  | .plain item rest => rest.parentheses (offset + item.byteLength)
  | .group body rest =>
      .opening offset ::
        (body.parentheses (offset + 1) ++
          .closing (offset + body.width + 1) ::
            rest.parentheses (offset + body.width + 2))

@[simp] theorem width_done : width .done = 0 := rfl

@[simp] theorem width_plain (item : Text) (rest : Outline) :
    width (.plain item rest) = item.byteLength + rest.width :=
  Text.byteLength_append item rest.text

@[simp] theorem width_group (body rest : Outline) :
    width (.group body rest) = body.width + rest.width + 2 := by
  have opening : '('.utf8Size = 1 := rfl
  have closing : ')'.utf8Size = 1 := rfl
  simp only [width, text, Text.byteLength_cons, Text.byteLength_append, opening, closing]
  omega

theorem filterMap_parentheses (outline : Outline) (offset : Nat) :
    (outline.parentheses offset).filterMap Parenthesis.openingOffset? =
      outline.openings offset := by
  induction outline generalizing offset with
  | done => rfl
  | plain item rest inductionHypothesis => exact inductionHypothesis _
  | group body rest bodyHypothesis restHypothesis =>
      rw [parentheses, openings,
        List.filterMap_cons_some (b := offset) (by rfl), List.filterMap_append,
        bodyHypothesis, List.filterMap_cons_none (by rfl), restHypothesis]

/-- Every opening is listed once: as the start of an outermost group or inside
one. -/
theorem flatMap_groups (outline : Outline) (offset : Nat) :
    (outline.groups offset).flatMap (fun group => group.span.start :: group.inner) =
      outline.openings offset := by
  induction outline generalizing offset with
  | done => rfl
  | plain item rest inductionHypothesis => exact inductionHypothesis _
  | group body rest _ restHypothesis =>
      simp [groups, openings, restHypothesis]

end Outline

/-! ## Derivations and texts -/

theorem Text.exists_append_afterCaret (text : Text) :
    ∃ taken, text = taken ++ text.afterCaret := by
  unfold afterCaret
  split
  · exact ⟨['^'], rfl⟩
  · exact ⟨[], rfl⟩

theorem Text.exists_append_afterBracket (text : Text) :
    ∃ taken, text = taken ++ text.afterBracket := by
  unfold afterBracket
  split
  · exact ⟨[']'], rfl⟩
  · exact ⟨[], rfl⟩

theorem Text.exists_append_classContents (text : Text) :
    ∃ taken, text = taken ++ text.classContents := by
  obtain ⟨caret, caretSplit⟩ := text.exists_append_afterCaret
  obtain ⟨bracket, bracketSplit⟩ := text.afterCaret.exists_append_afterBracket
  refine ⟨caret ++ bracket, ?_⟩
  rw [classContents, List.append_assoc, ← bracketSplit, ← caretSplit]

theorem ClassTail.exists_append {text rest : Text} (read : ClassTail text rest) :
    ∃ taken, text = taken ++ rest := by
  induction read with
  | close rest => exact ⟨[']'], rfl⟩
  | unterminated => exact ⟨[], rfl⟩
  | escape character _ inductionHypothesis =>
      obtain ⟨taken, rfl⟩ := inductionHypothesis
      exact ⟨'\\' :: character :: taken, rfl⟩
  | loneBackslash => exact ⟨['\\'], rfl⟩
  | @nested text middle rest _ _ innerHypothesis laterHypothesis =>
      obtain ⟨head, headSplit⟩ := text.exists_append_classContents
      obtain ⟨inner, innerSplit⟩ := innerHypothesis
      obtain ⟨later, laterSplit⟩ := laterHypothesis
      refine ⟨'[' :: (head ++ inner ++ later), ?_⟩
      rw [List.cons_append, List.append_assoc, ← laterSplit, List.append_assoc,
        ← innerSplit, ← headSplit]
  | member _ _ _ _ inductionHypothesis =>
      obtain ⟨taken, rfl⟩ := inductionHypothesis
      exact ⟨_ :: taken, rfl⟩

/-- A derived text is the text of its outline and the rest. -/
theorem Derives.text_eq {text rest : Text} {outline : Outline}
    (derived : Derives text outline rest) :
    text = outline.text ++ rest := by
  induction derived with
  | done text => rfl
  | plain split _ _ inductionHypothesis =>
      rw [split, inductionHypothesis, Outline.text, List.append_assoc]
  | group _ _ bodyHypothesis restHypothesis =>
      rw [bodyHypothesis, restHypothesis, Outline.text, List.cons_append,
        List.append_assoc, List.cons_append]

theorem Derives.eq_text {pattern : Text} {outline : Outline}
    (derived : Derives pattern outline []) : pattern = outline.text := by
  have whole := derived.text_eq
  rw [List.append_nil] at whole
  exact whole

theorem PlainItem.exists_append {text rest : Text} (read : PlainItem text rest) :
    ∃ taken, taken ≠ [] ∧ text = taken ++ rest := by
  cases read with
  | escape character rest => exact ⟨['\\', character], by simp, rfl⟩
  | loneBackslash => exact ⟨['\\'], by simp, rfl⟩
  | @bracket text rest contents =>
      obtain ⟨head, headSplit⟩ := text.exists_append_classContents
      obtain ⟨inner, innerSplit⟩ := contents.exists_append
      refine ⟨'[' :: (head ++ inner), by simp, ?_⟩
      rw [List.cons_append, List.append_assoc, ← innerSplit, ← headSplit]
  | character rest _ _ _ _ => exact ⟨[_], by simp, rfl⟩

/-! ## Structural parentheses of derived texts -/

namespace Place

/-- Past the start of a class no character is a structural parenthesis. -/
theorem parentheses_cons_of_ne_outside
    {place : Place} (different : place ≠ .outside)
    (offset : Nat) (character : Char) (rest : Text) :
    place.parentheses offset (character :: rest) =
      (place.next character).parentheses (offset + character.utf8Size) rest := by
  rw [parentheses, parenthesis?, if_neg different]
  rfl

theorem parentheses_classNegated (text : Text) {depth offset finish : Nat}
    (finishEq : offset + text.byteLength = finish + text.afterBracket.byteLength) :
    (Place.classNegated depth).parentheses offset text =
      (Place.inside depth).parentheses finish text.afterBracket := by
  cases text with
  | nil => rfl
  | cons character rest =>
      rw [parentheses_cons_of_ne_outside (by simp), next]
      by_cases bracket : character = ']'
      · subst character
        rw [if_pos rfl]
        simp only [Text.afterBracket, Text.byteLength_cons] at finishEq ⊢
        congr 1
        omega
      · have unchanged : Text.afterBracket (character :: rest) = character :: rest := by
          rw [Text.afterBracket_cons, if_neg bracket]
        rw [unchanged] at finishEq ⊢
        have sameOffset : offset = finish := by omega
        rw [if_neg bracket, parentheses_cons_of_ne_outside (by simp), sameOffset]
        rfl

/-- A reader at the start of a class reads on at its contents. -/
theorem parentheses_classStart (text : Text) {depth offset finish : Nat}
    (finishEq : offset + text.byteLength = finish + text.classContents.byteLength) :
    (Place.classStart depth).parentheses offset text =
      (Place.inside depth).parentheses finish text.classContents := by
  cases text with
  | nil => rfl
  | cons character rest =>
      by_cases caret : character = '^'
      · subst character
        rw [parentheses_cons_of_ne_outside (by simp), next, if_pos rfl]
        apply parentheses_classNegated
        simp only [Text.classContents, Text.afterCaret, Text.byteLength_cons] at finishEq
        omega
      · have unchanged : Text.afterCaret (character :: rest) = character :: rest := by
          rw [Text.afterCaret_cons, if_neg caret]
        have likeNegated :
            (Place.classStart depth).parentheses offset (character :: rest) =
              (Place.classNegated depth).parentheses offset (character :: rest) := by
          rw [parentheses_cons_of_ne_outside (by simp),
            parentheses_cons_of_ne_outside (by simp), next, if_neg caret]
          rfl
        rw [Text.classContents, unchanged] at finishEq ⊢
        rw [likeNegated]
        exact parentheses_classNegated _ finishEq

/-- A reader in a class reads on after the end of that class, wherever the class
ends. -/
theorem parentheses_inside_of_classTail
    {text rest : Text} (read : ClassTail text rest)
    {depth offset finish : Nat} (deep : 0 < depth)
    (finishEq : offset + text.byteLength = finish + rest.byteLength) :
    (Place.inside depth).parentheses offset text =
      (leave depth).parentheses finish rest := by
  induction read generalizing depth offset finish with
  | unterminated => rfl
  | loneBackslash => rfl
  | close rest =>
      rw [Text.byteLength_cons] at finishEq
      rw [parentheses_cons_of_ne_outside (by simp)]
      congr 1
      omega
  | escape character _ inductionHypothesis =>
      simp only [Text.byteLength_cons] at finishEq
      rw [parentheses_cons_of_ne_outside (by simp),
        parentheses_cons_of_ne_outside (by simp [next, nextInside])]
      apply inductionHypothesis deep
      omega
  | member notEscape notOpen notClose _ inductionHypothesis =>
      rw [Text.byteLength_cons] at finishEq
      rw [parentheses_cons_of_ne_outside (by simp), next, nextInside,
        if_neg notEscape, if_neg notOpen, if_neg notClose]
      apply inductionHypothesis deep
      omega
  | @nested text middle rest inner later innerHypothesis laterHypothesis =>
      rw [Text.byteLength_cons] at finishEq
      obtain ⟨head, headSplit⟩ := text.exists_append_classContents
      obtain ⟨taken, innerSplit⟩ := inner.exists_append
      have headLength := congrArg Text.byteLength headSplit
      have innerLength := congrArg Text.byteLength innerSplit
      rw [Text.byteLength_append] at headLength innerLength
      have outer : leave (depth + 1) = .inside depth := by
        rw [leave, if_neg (by omega), Nat.add_sub_cancel]
      -- The nested class is one level deeper and leads back to this one.
      calc (Place.inside depth).parentheses offset ('[' :: text)
          = (Place.classStart (depth + 1)).parentheses
              (offset + '['.utf8Size) text :=
            parentheses_cons_of_ne_outside (by simp) offset '[' text
        _ = (Place.inside (depth + 1)).parentheses
              (offset + '['.utf8Size + head.byteLength) text.classContents :=
            parentheses_classStart text (by omega)
        _ = (leave (depth + 1)).parentheses
              (offset + '['.utf8Size + head.byteLength + taken.byteLength) middle :=
            innerHypothesis (by omega) (by omega)
        _ = (leave depth).parentheses finish rest := by
            rw [outer]
            exact laterHypothesis deep (by omega)

theorem parentheses_outside_of_plainItem
    {text rest : Text} (read : PlainItem text rest)
    {offset : Nat} (finish : Nat)
    (finishEq : offset + text.byteLength = finish + rest.byteLength) :
    outside.parentheses offset text = outside.parentheses finish rest := by
  cases read with
  | loneBackslash => rfl
  | escape character rest =>
      simp only [Text.byteLength_cons] at finishEq
      show outside.parentheses (offset + '\\'.utf8Size + character.utf8Size) rest = _
      congr 1
      omega
  | character rest notEscape notBracket notOpen notClose =>
      rw [Text.byteLength_cons] at finishEq
      rw [parentheses, parenthesis?, if_pos rfl, if_neg notOpen, if_neg notClose,
        next_outside notEscape notBracket]
      show outside.parentheses _ rest = _
      congr 1
      omega
  | @bracket text rest contents =>
      rw [Text.byteLength_cons] at finishEq
      obtain ⟨head, headSplit⟩ := text.exists_append_classContents
      have headLength := congrArg Text.byteLength headSplit
      rw [Text.byteLength_append] at headLength
      calc outside.parentheses offset ('[' :: text)
          = (Place.classStart 1).parentheses (offset + '['.utf8Size) text := rfl
        _ = (Place.inside 1).parentheses
              (offset + '['.utf8Size + head.byteLength) text.classContents :=
            parentheses_classStart text (by omega)
        _ = outside.parentheses finish rest :=
            parentheses_inside_of_classTail contents Nat.one_pos (by omega)

end Place

/-- The structural parentheses of a derived text are those of its outline and
those of the rest. -/
theorem Derives.parentheses_eq
    {text rest : Text} {outline : Outline} (derived : Derives text outline rest)
    (offset : Nat) :
    Place.outside.parentheses offset text =
      outline.parentheses offset ++
        Place.outside.parentheses (offset + outline.width) rest := by
  induction derived generalizing offset with
  | done text => rfl
  | @plain text item middle rest outline split read _ inductionHypothesis =>
      have length := congrArg Text.byteLength split
      rw [Text.byteLength_append] at length
      rw [Place.parentheses_outside_of_plainItem read
          (offset + item.byteLength) (by omega),
        inductionHypothesis, Outline.parentheses, Outline.width_plain, Nat.add_assoc]
  | @group text middle rest body outline _ _ bodyHypothesis restHypothesis =>
      rw [Place.parentheses_outside_opening, bodyHypothesis,
        Place.parentheses_outside_closing, restHypothesis, Outline.parentheses,
        Outline.width_group]
      simp only [List.cons_append, List.append_assoc]
      have bodyEnd : offset + 1 + body.width = offset + body.width + 1 := by omega
      have groupEnd : offset + body.width + 2 + outline.width =
          offset + (body.width + outline.width + 2) := by omega
      rw [bodyEnd, groupEnd]

end NamedCapture
