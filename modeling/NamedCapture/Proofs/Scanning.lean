import NamedCapture.Pattern.Scan
import NamedCapture.Proofs.Places

/-!
Contract: the pass over the bytes of a pattern pairs exactly the structural
parentheses of its characters.

The pass leaves an escape in the middle of a multibyte character and meets the
remaining bytes in another mode; those bytes mean nothing to it, so pass and
character reading agree again at every character boundary.

Owns:
- the marks of a character, one for each of its bytes;
- the agreement of scan modes with places;
- the scan as a fold over structural parentheses.

Does not own: what the pairing yields.
-/

namespace NamedCapture

/-! ## Marks of characters -/

/-- What a character means to the scan. -/
def Mark.ofChar (character : Char) : Mark :=
  if character = '\\' then .backslash
  else if character = '[' then .openBracket
  else if character = ']' then .closeBracket
  else if character = '^' then .caret
  else if character = '(' then .openParenthesis
  else if character = ')' then .closeParenthesis
  else .other

def Mark.allOfChar (character : Char) : List Mark :=
  (String.utf8EncodeChar character).map Mark.ofByte

theorem Text.marks_cons (character : Char) (rest : Text) :
    Text.marks (character :: rest) = Mark.allOfChar character ++ Text.marks rest := by
  simp [Text.marks, Text.bytes, Mark.allOfChar]

private theorem toUInt8_inj_of_narrow {first second : Char}
    (firstNarrow : first.utf8Size = 1) (secondNarrow : second.utf8Size = 1) :
    first.val.toUInt8 = second.val.toUInt8 ↔ first = second := by
  rw [Char.utf8Size_eq_one_iff, UInt32.le_iff_toNat_le] at firstNarrow secondNarrow
  have bound : (127 : UInt32).toNat = 127 := rfl
  constructor
  · intro same
    have values := congrArg UInt8.toNat same
    simp only [UInt32.toNat_toUInt8] at values
    apply Char.ext
    apply UInt32.toNat_inj.mp
    omega
  · rintro rfl
    rfl

/-- The only byte of a narrow character means what the character means. -/
theorem Mark.allOfChar_of_narrow {character : Char}
    (narrow : character.utf8Size = 1) :
    Mark.allOfChar character = [Mark.ofChar character] := by
  have same (special : Char) (specialNarrow : special.utf8Size = 1) :
      character.val.toUInt8 = special.val.toUInt8 ↔ character = special :=
    toUInt8_inj_of_narrow narrow specialNarrow
  rw [allOfChar, String.utf8EncodeChar_eq_singleton narrow, List.map_singleton,
    ofByte, ofChar]
  simp only [← same '\\' rfl, ← same '[' rfl, ← same ']' rfl, ← same '^' rfl,
    ← same '(' rfl, ← same ')' rfl]
  rfl

private theorem high_of_wide {character : Char} (wide : character.utf8Size ≠ 1) :
    ∀ byte ∈ String.utf8EncodeChar character, 0x80 ≤ byte := by
  have large : ¬ character.val.toNat ≤ 0x7F := by
    intro small
    exact wide (Char.utf8Size_eq_one_iff.mpr (UInt32.le_iff_toNat_le.mpr small))
  intro byte member
  rw [String.utf8EncodeChar] at member
  simp only [if_neg large] at member
  split at member
  · simp only [List.mem_cons, List.not_mem_nil, or_false] at member
    rcases member with rfl | rfl <;>
      (rw [UInt8.le_iff_toNat_le]; simp only [UInt8.toNat_ofNat']; simp; omega)
  · split at member
    all_goals
      simp only [List.mem_cons, List.not_mem_nil, or_false] at member
      rcases member with rfl | rfl | rfl | rfl <;>
        (rw [UInt8.le_iff_toNat_le]; simp only [UInt8.toNat_ofNat']; simp; omega)

private theorem ofByte_of_high {byte : UInt8} (high : 0x80 ≤ byte) :
    Mark.ofByte byte = .other := by
  have different (low : UInt8) (small : low < 0x80) : byte ≠ low := by
    rintro rfl
    exact absurd high (UInt8.not_le.mpr small)
  simp [Mark.ofByte, different]

/-- No byte of a wide character means anything. -/
theorem Mark.allOfChar_of_wide {character : Char}
    (wide : character.utf8Size ≠ 1) :
    Mark.allOfChar character = List.replicate character.utf8Size .other := by
  rw [List.eq_replicate_iff]
  constructor
  · simp [allOfChar]
  · intro mark member
    obtain ⟨byte, byteMember, rfl⟩ := List.mem_map.mp member
    exact ofByte_of_high (high_of_wide wide byte byteMember)

theorem Mark.ofChar_of_wide {character : Char} (wide : character.utf8Size ≠ 1) :
    Mark.ofChar character = .other := by
  have different (special : Char) (specialNarrow : special.utf8Size = 1) :
      character ≠ special := by
    rintro rfl
    exact wide specialNarrow
  simp [ofChar, different '\\' rfl, different '[' rfl, different ']' rfl,
    different '^' rfl, different '(' rfl, different ')' rfl]

theorem Mark.ofChar_eq_caret_iff (character : Char) :
    Mark.ofChar character = .caret ↔ character = '^' := by
  constructor
  · intro marked
    grind [Mark.ofChar]
  · rintro rfl
    rfl

/-- The first byte of a character means what the character means, and the
remaining ones mean nothing. -/
theorem Mark.allOfChar_eq (character : Char) :
    Mark.allOfChar character =
      Mark.ofChar character :: List.replicate (character.utf8Size - 1) .other := by
  by_cases narrow : character.utf8Size = 1
  · rw [allOfChar_of_narrow narrow, narrow]
    rfl
  · have positive := character.utf8Size_pos
    rw [allOfChar_of_wide narrow, ofChar_of_wide narrow, ← List.replicate_succ]
    congr 1
    omega

theorem Text.head?_marks_eq_caret_iff (text : Text) :
    text.marks.head? = some .caret ↔ text.head? = some '^' := by
  cases text with
  | nil => simp [marks, bytes]
  | cons character rest =>
      rw [marks_cons, Mark.allOfChar_eq]
      simp only [List.cons_append, List.head?_cons, Option.some.injEq]
      exact Mark.ofChar_eq_caret_iff character

/-! ## Pairing structural parentheses -/

namespace ScanState

/-- Open or close a group at a structural parenthesis. -/
def pair (state : ScanState) : Parenthesis → Except PatternError ScanState
  | .opening offset => .ok (state.openGroup offset)
  | .closing offset => state.closeGroup offset

/-- Open and close groups at structural parentheses, left to right. -/
def pairAll (state : ScanState) :
    List Parenthesis → Except PatternError ScanState
  | [] => .ok state
  | parenthesis :: remaining =>
      (state.pair parenthesis).bind fun following => following.pairAll remaining

def inMode (state : ScanState) (mode : ScanMode) : ScanState :=
  { state with mode }

theorem inMode_self (state : ScanState) : state.inMode state.mode = state := rfl

/-- Pairing a parenthesis neither reads nor changes the mode. -/
theorem pair_inMode (state : ScanState) (mode : ScanMode)
    (parenthesis : Parenthesis) :
    (state.inMode mode).pair parenthesis =
      (state.pair parenthesis).map (·.inMode mode) := by
  cases parenthesis with
  | opening offset => rfl
  | closing offset =>
      rcases state with ⟨_, opened, inner, groups⟩
      match opened with
      | [] => rfl
      | [_] => rfl
      | _ :: _ :: _ => rfl

theorem pairAll_append (state : ScanState) (first second : List Parenthesis) :
    state.pairAll (first ++ second) =
      (state.pairAll first).bind fun following => following.pairAll second := by
  induction first generalizing state with
  | nil => rfl
  | cons parenthesis first inductionHypothesis =>
      rw [List.cons_append, pairAll, pairAll]
      cases state.pair parenthesis with
      | error error => rfl
      | ok following => exact inductionHypothesis following

/-- A pairing that succeeds has paired the first parenthesis and goes on from there. -/
theorem pairAll_cons_eq_ok_iff
    {state following : ScanState} {parenthesis : Parenthesis} {later : List Parenthesis} :
    state.pairAll (parenthesis :: later) = .ok following ↔
      ∃ middle, state.pair parenthesis = .ok middle ∧ middle.pairAll later = .ok following := by
  rw [pairAll]
  cases state.pair parenthesis <;> simp [Except.bind]

theorem pairAll_append_eq_ok_iff
    {state following : ScanState} {first second : List Parenthesis} :
    state.pairAll (first ++ second) = .ok following ↔
      ∃ middle, state.pairAll first = .ok middle ∧ middle.pairAll second = .ok following := by
  rw [pairAll_append]
  cases state.pairAll first <;> simp [Except.bind]

@[simp] theorem pairAll_singleton (state : ScanState) (parenthesis : Parenthesis) :
    state.pairAll [parenthesis] = state.pair parenthesis := by
  rw [pairAll]
  cases state.pair parenthesis <;> rfl

theorem pairAll_inMode (state : ScanState) (mode : ScanMode)
    (parentheses : List Parenthesis) :
    (state.inMode mode).pairAll parentheses =
      (state.pairAll parentheses).map (·.inMode mode) := by
  induction parentheses generalizing state with
  | nil => rfl
  | cons parenthesis parentheses inductionHypothesis =>
      rw [pairAll, pairAll, pair_inMode]
      cases state.pair parenthesis with
      | error error => rfl
      | ok following => exact inductionHypothesis following

theorem pairAll_inMode_bind_finish (state : ScanState) (mode : ScanMode)
    (parentheses : List Parenthesis) :
    ((state.inMode mode).pairAll parentheses).bind finish =
      (state.pairAll parentheses).bind finish := by
  rw [pairAll_inMode]
  cases state.pairAll parentheses <;> rfl

end ScanState

/-! ## Modes and places -/

namespace Place

/-- A scan mode is right for a place before a text. At the start of a class it
knows the offset of the one bracket that may still be literal; later it may
remember an offset that has been passed. -/
def Agrees (place : Place) (position : Nat) (text : Text) (mode : ScanMode) :
    Prop :=
  match place with
  | .outside => mode = .plain
  | .escaped => mode = .escaped
  | .classStart depth =>
      mode = .inClass depth
        (some (if text.head? = some '^' then position + 1 else position))
  | .classNegated depth => mode = .inClass depth (some position)
  | .inside depth =>
      ∃ literalClose, mode = .inClass depth literalClose ∧
        ∀ close, literalClose = some close → close < position
  | .escapedInside depth => mode = .escapedInClass depth

end Place

namespace ScanState

/-- In these modes a byte without a meaning changes nothing. -/
def IsSettled : ScanMode → Prop
  | .plain => True
  | .inClass _ _ => True
  | .escaped => False
  | .escapedInClass _ => False

theorem step_other
    {state : ScanState} (settled : IsSettled state.mode) (position : Nat)
    (next : Option Mark) : state.step position .other next = .ok state := by
  rcases state with ⟨mode, opened, inner, groups⟩
  cases mode with
  | plain => rfl
  | inClass depth literalClose => rfl
  | escaped => exact absurd settled not_false
  | escapedInClass depth => exact absurd settled not_false

theorem run_replicate_other
    {state : ScanState} (settled : IsSettled state.mode)
    (position count : Nat) (marks : List Mark) :
    run position (List.replicate count .other ++ marks) state =
      run (position + count) marks state := by
  induction count generalizing position with
  | zero => rfl
  | succ count inductionHypothesis =>
      rw [List.replicate_succ, List.cons_append, run, step_other settled]
      simp only
      rw [inductionHypothesis, Nat.add_right_comm, Nat.add_assoc]

/-- The mark after a character, which the scan has in sight while it reads the
character's first byte. -/
def markAfter (character : Char) (rest : Text) : Option Mark :=
  (List.replicate (character.utf8Size - 1) Mark.other ++ rest.marks).head?

/-- After a step on the first byte of a character, its remaining bytes change
nothing. -/
theorem run_char_of_step
    {state following : ScanState} {position : Nat} {character : Char} {rest : Text}
    (stepped :
      state.step position (.ofChar character) (markAfter character rest) =
        .ok following)
    (settled : character.utf8Size = 1 ∨ IsSettled following.mode) :
    run position (Text.marks (character :: rest)) state =
      run (position + character.utf8Size) rest.marks following := by
  have positive := character.utf8Size_pos
  rw [Text.marks_cons, Mark.allOfChar_eq, List.cons_append, run]
  rw [markAfter] at stepped
  rw [stepped]
  simp only
  rcases settled with narrow | settled
  · rw [narrow]
    rfl
  · rw [run_replicate_other settled]
    congr 1
    omega

theorem classMode_of_ne
    {mark : Mark} (notEscape : mark ≠ .backslash) (notOpen : mark ≠ .openBracket)
    (notClose : mark ≠ .closeBracket)
    (depth : Nat) (literalClose : Option Nat) (position : Nat) (next : Option Mark) :
    classMode depth literalClose position mark next = .inClass depth literalClose := by
  cases mark <;> first | rfl | contradiction

theorem agrees_nextInside
    {depth position : Nat} {literalClose : Option Nat} {character : Char} {rest : Text}
    (notLiteral : character = ']' → literalClose ≠ some position)
    (passed : ∀ close, literalClose = some close →
      close < position + character.utf8Size) :
    (Place.nextInside depth character).Agrees (position + character.utf8Size) rest
      (classMode depth literalClose position (.ofChar character)
        (markAfter character rest)) := by
  unfold Place.nextInside
  split
  · subst character
    rfl
  · split
    · subst character
      have sight : markAfter '[' rest = rest.marks.head? := rfl
      show ScanMode.inClass _ _ = _
      simp only [literalClosePosition, sight, Text.head?_marks_eq_caret_iff]
      rfl
    · split
      · subst character
        show Place.Agrees _ _ _ (if literalClose = some position then _ else _)
        rw [if_neg (notLiteral rfl), Place.leave]
        split
        · rfl
        · exact ⟨none, rfl, by simp⟩
      · rw [classMode_of_ne]
        · exact ⟨literalClose, rfl, passed⟩
        all_goals grind [Mark.ofChar]

/-- The scan follows every character of a class. -/
theorem agrees_next_of_inClass
    {place : Place} {depth position : Nat} {literalClose : Option Nat}
    {character : Char} {rest : Text}
    (agrees : place.Agrees position (character :: rest)
      (.inClass depth literalClose)) :
    (place.next character).Agrees (position + character.utf8Size) rest
      (classMode depth literalClose position (.ofChar character)
        (markAfter character rest)) := by
  have positive := character.utf8Size_pos
  cases place with
  | outside => cases agrees
  | escaped => cases agrees
  | escapedInside depth => cases agrees
  | inside depth =>
      obtain ⟨_, modeEq, passed⟩ := agrees
      cases modeEq
      apply agrees_nextInside
      · intro _ literal
        exact Nat.lt_irrefl _ (passed position literal)
      · intro close literal
        have bound := passed close literal
        omega
  | classStart depth =>
      cases agrees
      simp only [Place.next, List.head?_cons, Option.some.injEq]
      split
      · subst character
        rfl
      · split
        · subst character
          exact ⟨none, if_pos rfl, by simp⟩
        · apply agrees_nextInside
          · intro close
            contradiction
          · intro close literal
            cases literal
            omega
  | classNegated depth =>
      cases agrees
      simp only [Place.next]
      split
      · subst character
        exact ⟨none, if_pos rfl, by simp⟩
      · apply agrees_nextInside
        · intro close
          contradiction
        · intro close literal
          cases literal
          omega

theorem classMode_isSettled_or_narrow
    (depth : Nat) (literalClose : Option Nat) (position : Nat) (character : Char)
    (next : Option Mark) :
    character.utf8Size = 1 ∨
      IsSettled
        (classMode depth literalClose position (.ofChar character) next) := by
  by_cases narrow : character.utf8Size = 1
  · exact .inl narrow
  · rw [Mark.ofChar_of_wide narrow]
    exact .inr trivial

theorem closeGroup_mode
    {state following : ScanState} {position : Nat}
    (closed : state.closeGroup position = .ok following) :
    following.mode = state.mode := by
  unfold closeGroup at closed
  split at closed
  · cases closed
  all_goals
    cases closed
    rfl

theorem step_char_outside
    (state : ScanState) (plain : state.mode = .plain)
    (position : Nat) (character : Char) (rest : Text) :
    ∃ mode,
      (Place.next .outside character).Agrees (position + character.utf8Size) rest
          mode ∧
        (character.utf8Size = 1 ∨ IsSettled mode) ∧
        state.step position (.ofChar character) (markAfter character rest) =
          (state.pairAll
            (Place.outside.parenthesis? position character).toList).map
              (·.inMode mode) := by
  rcases state with ⟨mode, opened, inner, groups⟩
  cases plain
  by_cases escape : character = '\\'
  · subst character
    exact ⟨.escaped, rfl, .inl rfl, rfl⟩
  by_cases bracket : character = '['
  · subst character
    have sight : markAfter '[' rest = rest.marks.head? := rfl
    refine ⟨.inClass 1 (some (literalClosePosition position rest.marks.head?)), ?_, .inl rfl, rfl⟩
    simp only [literalClosePosition, Text.head?_marks_eq_caret_iff]
    rfl
  have outside : Place.next .outside character = .outside :=
    Place.next_outside escape bracket
  rw [outside]
  refine ⟨.plain, rfl, .inr trivial, ?_⟩
  by_cases opens : character = '('
  · subst character
    rfl
  by_cases closes : character = ')'
  · subst character
    have stepped (next : Option Mark) :
        step ⟨.plain, opened, inner, groups⟩ position (.ofChar ')') next =
          closeGroup ⟨.plain, opened, inner, groups⟩ position := rfl
    show _ = ((closeGroup ⟨.plain, opened, inner, groups⟩ position).bind
      (fun following => .ok following)).map _
    rw [stepped]
    cases closed : closeGroup ⟨.plain, opened, inner, groups⟩ position with
    | error error => rfl
    | ok following =>
        have modeEq : following.mode = .plain := closeGroup_mode closed
        show _ = Except.ok (following.inMode .plain)
        rw [← modeEq, inMode_self]
  have none : Place.outside.parenthesis? position character = none := by
    simp [Place.parenthesis?, opens, closes]
  rw [none]
  have meaning : Mark.ofChar character = .caret ∨ Mark.ofChar character = .other ∨
      Mark.ofChar character = .closeBracket := by
    grind [Mark.ofChar]
  rcases meaning with meaning | meaning | meaning <;> rw [meaning] <;> rfl

/-- The step on the first byte of a character pairs the character if it is a
structural parenthesis, and goes on in the mode of the next place. -/
theorem step_char
    {place : Place} {state : ScanState} {position : Nat} {character : Char} {rest : Text}
    (agrees : place.Agrees position (character :: rest) state.mode) :
    ∃ mode,
      (place.next character).Agrees (position + character.utf8Size) rest mode ∧
        (character.utf8Size = 1 ∨ IsSettled mode) ∧
        state.step position (.ofChar character) (markAfter character rest) =
          (state.pairAll (place.parenthesis? position character).toList).map
            (·.inMode mode) := by
  by_cases outside : place = .outside
  · subst place
    exact step_char_outside state agrees position character rest
  have noParenthesis : place.parenthesis? position character = none :=
    if_neg outside
  rw [noParenthesis]
  rcases state with ⟨mode, opened, inner, groups⟩
  cases mode with
  | plain =>
      cases place with
      | outside => exact absurd rfl outside
      | inside depth =>
          obtain ⟨_, modeEq, -⟩ := agrees
          cases modeEq
      | _ => cases agrees
  | escaped =>
      refine ⟨.plain, ?_, .inr trivial, rfl⟩
      cases place with
      | escaped => rfl
      | inside depth =>
          obtain ⟨_, modeEq, -⟩ := agrees
          cases modeEq
      | _ => cases agrees
  | escapedInClass depth =>
      refine ⟨.inClass depth none, ?_, .inr trivial, rfl⟩
      cases place with
      | escapedInside placeDepth =>
          cases agrees
          exact ⟨none, rfl, by simp⟩
      | inside depth =>
          obtain ⟨_, modeEq, -⟩ := agrees
          cases modeEq
      | _ => cases agrees
  | inClass depth literalClose =>
      exact ⟨_, agrees_next_of_inClass agrees, classMode_isSettled_or_narrow .., rfl⟩

/-- The scan follows every character and pairs it if it is a structural
parenthesis. -/
theorem run_char
    {place : Place} {state : ScanState} {position : Nat} {character : Char} {rest : Text}
    (agrees : place.Agrees position (character :: rest) state.mode) :
    ∃ mode,
      (place.next character).Agrees (position + character.utf8Size) rest mode ∧
        run position (Text.marks (character :: rest)) state =
          (state.pairAll (place.parenthesis? position character).toList).bind
            fun following =>
              run (position + character.utf8Size) rest.marks
                (following.inMode mode) := by
  obtain ⟨mode, following, settled, stepped⟩ := step_char agrees
  refine ⟨mode, following, ?_⟩
  cases paired : state.pairAll (place.parenthesis? position character).toList with
  | error error =>
      rw [paired, markAfter] at stepped
      rw [Text.marks_cons, Mark.allOfChar_eq, List.cons_append, run, stepped]
      rfl
  | ok pairedState =>
      rw [paired] at stepped
      exact run_char_of_step stepped settled

/-- From any place on, the pass over the bytes of a text pairs exactly the
structural parentheses of its characters. -/
theorem run_bind_finish
    (text : Text) {place : Place} {state : ScanState} {position : Nat}
    (agrees : place.Agrees position text state.mode) :
    (run position text.marks state).bind finish =
      (state.pairAll (place.parentheses position text)).bind finish := by
  induction text generalizing place state position with
  | nil => rfl
  | cons character rest inductionHypothesis =>
      obtain ⟨mode, following, stepped⟩ := run_char agrees
      rw [stepped, Place.parentheses, pairAll_append]
      cases state.pairAll (place.parenthesis? position character).toList with
      | error error => rfl
      | ok paired =>
          show (run _ _ (paired.inMode mode)).bind finish = (paired.pairAll _).bind finish
          rw [inductionHypothesis following, pairAll_inMode_bind_finish]

/-- The mode at the end of a text is right for the place there. -/
theorem agrees_of_run
    (text : Text) {place : Place} {state final : ScanState} {position : Nat}
    (agrees : place.Agrees position text state.mode)
    (ran : run position text.marks state = .ok final) :
    (place.after text).Agrees (position + text.byteLength) [] final.mode := by
  induction text generalizing place state position with
  | nil =>
      cases ran
      exact agrees
  | cons character rest inductionHypothesis =>
      obtain ⟨mode, following, stepped⟩ := run_char agrees
      rw [stepped] at ran
      rw [Text.byteLength_cons, ← Nat.add_assoc]
      cases paired : state.pairAll (place.parenthesis? position character).toList with
      | error error =>
          rw [paired] at ran
          cases ran
      | ok pairedState =>
          rw [paired] at ran
          change run _ _ (pairedState.inMode mode) = _ at ran
          exact inductionHypothesis following ran

end ScanState

/-- The scan pairs the structural parentheses of a pattern. -/
theorem scanPattern_eq_pairAll (pattern : Text) :
    scanPattern pattern =
      (ScanState.start.pairAll pattern.parentheses).bind ScanState.finish := by
  have agreed :
      (ScanState.run 0 pattern.marks .start).bind ScanState.finish =
        (ScanState.start.pairAll (Place.outside.parentheses 0 pattern)).bind
          ScanState.finish :=
    ScanState.run_bind_finish pattern rfl
  rw [Text.parentheses, ← agreed, scanPattern]
  cases ScanState.run 0 pattern.marks .start <;> rfl

end NamedCapture
