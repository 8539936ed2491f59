import Mathlib.Data.List.Sort
import NamedCapture.Expression.Reading.Flags
import NamedCapture.Proofs.Numbering

/-!
Contract: the numbers that an engine gives to the groups of a pattern, as the
syntax of its patterns documents them.

An engine numbers capturing groups by their opening parentheses, left to right.
Escaped parentheses and those in classes are literal. While the flag for it is
on, blanks are invisible and a number sign starts a comment that runs to the end
of its line; neither the scan nor the analysis knows that flag.

Classes are read by nesting, with the places of the scan: every opening bracket in
a class starts another class. That is the documented reading but for one form. A
bracket that ends a range, as in `[+-[]`, may be a character to an engine, and the
class ends earlier then; the openings given here are not the ones that such an
engine numbers.

Owns:
- the groups that take a number, and how far a flag reaches;
- the numbered openings of a pattern;
- their agreement with the captures while blanks stay visible.

Does not own: any particular engine.
-/

namespace NamedCapture

/-! ## Groups and flags -/

namespace Text

/-- What the groups that take no number start with, apart from flags. -/
def unnumberedOpenings : List Text :=
  ["?:".toList, "?=".toList, "?!".toList, "?<=".toList, "?<!".toList, "?>".toList]

/-- The flags that a body starts with, and whether they are in force inside the
group alone: a colon ends them then, and the group's closing parenthesis
otherwise. -/
def flagList? (body : Text) : Option (Text × Bool) :=
  match body with
  | '?' :: rest =>
      let flags := rest.takeWhile GroupKind.isFlagLetter
      if flags = [] then none
      else
        match (rest.drop flags.length).head? with
        | some ')' => some (flags, false)
        | some ':' => some (flags, true)
        | _ => none
  | _ => none

def takesNumber (body : Text) : Bool :=
  !unnumberedOpenings.any (·.isPrefixOf body) && body.flagList?.isNone

/-- Whether blanks are invisible after a list of flags, given whether they were
before it. -/
def hidesBlanks (flags : Text) (before : Bool) : Bool :=
  if 'x' ∈ flags.takeWhile (· ≠ '-') then true
  else if 'x' ∈ flags then false
  else before

/-- Whether a group with this body does not start to hide blanks. -/
def leavesBlanks (body : Text) : Bool :=
  match body.flagList? with
  | some (flags, _) => !flags.hidesBlanks false
  | none => true

theorem hidesBlanks_of_leavesBlanks
    {body flags : Text} {inside : Bool} (leaves : body.leavesBlanks = true)
    (listed : body.flagList? = some (flags, inside)) :
    flags.hidesBlanks false = false := by
  rw [leavesBlanks, listed] at leaves
  simpa using leaves

end Text

/-! ## Numbered openings -/

/-- Where a reader of the engine's syntax stands: its place, whether blanks are
invisible, whether it is in a comment, and for each open group, innermost first,
whether blanks are invisible after it. -/
structure Reader where
  place : Place
  hidesBlanks : Bool
  inComment : Bool
  restored : List Bool
deriving DecidableEq, Repr

namespace Reader

def start : Reader :=
  ⟨.outside, false, false, []⟩

/-- Whether a character is invisible. An escaped one never is. -/
def skips (reader : Reader) (character : Char) : Bool :=
  match reader.place with
  | .escaped => false
  | .escapedInside _ => false
  | _ =>
      reader.inComment ||
        (reader.hidesBlanks && (Unicode.isWhiteSpace character || character == '#'))

/-- A text without the invisible characters it starts with. -/
def visible (reader : Reader) (text : Text) : Text :=
  if reader.hidesBlanks then PatternFlags.skipBlankFrom false text else text

/-- Open a group with this body. Flags that its closing parenthesis ends are in
force after it. -/
def openGroup (reader : Reader) (body : Text) : Reader :=
  match (reader.visible body).flagList? with
  | some (flags, true) =>
      { reader with
        hidesBlanks := flags.hidesBlanks reader.hidesBlanks
        restored := reader.hidesBlanks :: reader.restored }
  | some (flags, false) =>
      { reader with restored := flags.hidesBlanks reader.hidesBlanks :: reader.restored }
  | none => { reader with restored := reader.hidesBlanks :: reader.restored }

def closeGroup (reader : Reader) : Reader :=
  match reader.restored with
  | [] => reader
  | hidesBlanks :: restored => { reader with hidesBlanks, restored }

/-- Read one character, with the text after it in sight. -/
def read (reader : Reader) (character : Char) (rest : Text) : Reader :=
  if reader.skips character then
    { reader with
      inComment := if reader.inComment then character != '\n' else character == '#' }
  else if reader.place = .outside ∧ character = '(' then reader.openGroup rest
  else if reader.place = .outside ∧ character = ')' then reader.closeGroup
  else { reader with place := reader.place.next character }

/-- Whether a character opens a group that takes a number. -/
def numbers (reader : Reader) (character : Char) (rest : Text) : Bool :=
  !reader.skips character && reader.place = .outside && character == '(' &&
    (reader.visible rest).takesNumber

def numberedOpenings (reader : Reader) (offset : Nat) : Text → List Nat
  | [] => []
  | character :: rest =>
      (if reader.numbers character rest then [offset] else []) ++
        (reader.read character rest).numberedOpenings
          (offset + character.utf8Size) rest

end Reader

/-- The offsets of the openings that an engine numbers, in the order of their
numbers. -/
def Text.numberedOpenings (pattern : Text) : List Nat :=
  Reader.start.numberedOpenings 0 pattern

namespace Reader

/-! ## Order -/

theorem le_of_mem_numberedOpenings
    {reader : Reader} {offset position : Nat} {text : Text}
    (member : position ∈ reader.numberedOpenings offset text) :
    offset ≤ position := by
  induction text generalizing reader offset with
  | nil => cases member
  | cons character rest inductionHypothesis =>
      rw [numberedOpenings, List.mem_append] at member
      rcases member with here | later
      · split at here
        · exact Nat.le_of_eq (List.mem_singleton.mp here).symm
        · cases here
      · have bound := inductionHypothesis later
        omega

theorem numberedOpenings_pairwise (reader : Reader) (offset : Nat) (text : Text) :
    (reader.numberedOpenings offset text).Pairwise (· < ·) := by
  induction text generalizing reader offset with
  | nil => exact .nil
  | cons character rest inductionHypothesis =>
      rw [numberedOpenings, List.pairwise_append]
      refine ⟨?_, inductionHypothesis _ _, ?_⟩
      · split <;> simp
      · intro first here second later
        split at here
        · have positive := character.utf8Size_pos
          have bound := le_of_mem_numberedOpenings later
          rw [List.mem_singleton.mp here]
          omega
        · cases here

/-! ## Visible blanks -/

/-- Blanks are visible now and after every open group. -/
structure ShowsBlanks (reader : Reader) : Prop where
  visible : reader.hidesBlanks = false
  noComment : reader.inComment = false
  restored : ∀ hidesBlanks ∈ reader.restored, hidesBlanks = false

theorem ShowsBlanks.skips_eq_false {reader : Reader} (shows : reader.ShowsBlanks)
    (character : Char) : reader.skips character = false := by
  unfold skips
  split
  · rfl
  · rfl
  · rw [shows.noComment, shows.visible]
    rfl

theorem ShowsBlanks.visible_eq {reader : Reader} (shows : reader.ShowsBlanks)
    (text : Text) : reader.visible text = text := by
  rw [Reader.visible, shows.visible]
  rfl

/-- While blanks are visible a reader follows the places of the scan. -/
theorem ShowsBlanks.read_place {reader : Reader} (shows : reader.ShowsBlanks)
    (character : Char) (rest : Text) :
    (reader.read character rest).place = reader.place.next character := by
  rw [read, shows.skips_eq_false, if_neg Bool.false_ne_true]
  split
  · rename_i opens
    rw [opens.1, opens.2, openGroup]
    split <;> exact opens.1
  · split
    · rename_i closes
      rw [closes.1, closes.2, closeGroup]
      split <;> exact closes.1
    · rfl

/-- Blanks stay visible unless a group hides them. -/
theorem ShowsBlanks.read {reader : Reader} (shows : reader.ShowsBlanks)
    {character : Char} {rest : Text}
    (keeps : reader.place = .outside → character = '(' →
      rest.leavesBlanks = true) :
    (reader.read character rest).ShowsBlanks := by
  have shown := shows.visible
  have pushed (hidesBlanks : Bool) (shown : hidesBlanks = false) :
      ∀ later ∈ hidesBlanks :: reader.restored, later = false := by
    rw [List.forall_mem_cons]
    exact ⟨shown, shows.restored⟩
  rw [Reader.read, shows.skips_eq_false, if_neg Bool.false_ne_true]
  split
  · rename_i opens
    rw [openGroup, shows.visible_eq]
    split
    · rename_i flags listed
      have stays := Text.hidesBlanks_of_leavesBlanks (keeps opens.1 opens.2) listed
      exact ⟨by rw [shown]; exact stays, shows.noComment, pushed _ shown⟩
    · rename_i flags listed
      have stays := Text.hidesBlanks_of_leavesBlanks (keeps opens.1 opens.2) listed
      exact ⟨shown, shows.noComment, pushed _ (by rw [shown]; exact stays)⟩
    · exact ⟨shown, shows.noComment, pushed _ shown⟩
  · split
    · rw [closeGroup]
      split
      · exact shows
      · rename_i hidesBlanks restored restoredEq
        have later := shows.restored
        rw [restoredEq, List.forall_mem_cons] at later
        exact ⟨later.1, shows.noComment, later.2⟩
    · exact ⟨shown, shows.noComment, shows.restored⟩

/-- While blanks are visible, only structural openings of groups that take a
number are numbered. -/
theorem ShowsBlanks.opens_of_mem_numberedOpenings
    {reader : Reader} (shows : reader.ShowsBlanks) {offset position : Nat} {text : Text}
    (keeps : ∀ before body : Text, text = before ++ '(' :: body →
      reader.place.after before = .outside →
      body.leavesBlanks = true)
    (member : position ∈ reader.numberedOpenings offset text) :
    ∃ before body : Text, text = before ++ '(' :: body ∧
      offset + before.byteLength = position ∧
      reader.place.after before = .outside ∧ body.takesNumber = true := by
  induction text generalizing reader offset with
  | nil => cases member
  | cons character rest inductionHypothesis =>
      rw [numberedOpenings, List.mem_append] at member
      rcases member with here | later
      · split at here
        · rename_i numbered
          simp only [numbers, Bool.and_eq_true, decide_eq_true_eq, beq_iff_eq,
            shows.visible_eq] at numbered
          obtain ⟨⟨⟨-, outside⟩, opening⟩, takes⟩ := numbered
          have positionEq := List.mem_singleton.mp here
          exact ⟨[], rest, by rw [opening]; rfl, positionEq.symm, outside, takes⟩
        · cases here
      · have showsNext : (reader.read character rest).ShowsBlanks :=
          shows.read fun outside opening =>
            keeps [] rest (by rw [opening]; rfl) outside
        obtain ⟨before, body, split, offsetEq, placeEq, takes⟩ :=
          inductionHypothesis showsNext
            (fun before body split placeEq => by
              rw [shows.read_place] at placeEq
              exact keeps (character :: before) body (by rw [split]; rfl) placeEq)
            later
        rw [shows.read_place] at placeEq
        refine ⟨character :: before, body, by rw [split]; rfl, ?_, placeEq, takes⟩
        rw [Text.byteLength_cons]
        omega

/-- While blanks are visible, every structural opening of a group that takes a number
is numbered. -/
theorem ShowsBlanks.mem_numberedOpenings
    {reader : Reader} (shows : reader.ShowsBlanks) {offset : Nat} {text before body : Text}
    (keeps : ∀ before body : Text, text = before ++ '(' :: body →
      reader.place.after before = .outside →
      body.leavesBlanks = true)
    (split : text = before ++ '(' :: body) (outside : reader.place.after before = .outside)
    (takes : body.takesNumber = true) :
    offset + before.byteLength ∈ reader.numberedOpenings offset text := by
  induction before generalizing reader offset text with
  | nil =>
      have numbered : reader.numbers '(' body = true := by
        rw [numbers, shows.skips_eq_false, shows.visible_eq, takes]
        simpa using outside
      rw [split, List.nil_append, numberedOpenings, if_pos numbered]
      exact List.mem_append_left _ List.mem_cons_self
  | cons character before inductionHypothesis =>
      rw [List.cons_append] at split
      have showsNext : (reader.read character (before ++ '(' :: body)).ShowsBlanks :=
        shows.read fun here opening =>
          keeps [] _ (by rw [split, opening]; rfl) here
      have later : offset + character.utf8Size + Text.byteLength before ∈
          (reader.read character (before ++ '(' :: body)).numberedOpenings
            (offset + character.utf8Size) (before ++ '(' :: body) := by
        apply inductionHypothesis showsNext _ rfl
        · rw [shows.read_place]
          exact outside
        · intro earlier inner innerSplit placeEq
          rw [shows.read_place] at placeEq
          exact keeps (character :: earlier) inner (by rw [split, innerSplit]; rfl) placeEq
      rw [split, numberedOpenings, Text.byteLength_cons, ← Nat.add_assoc]
      exact List.mem_append_right _ later

end Reader

/-- Whether no group of a pattern hides blanks. -/
def Text.keepsBlanks (pattern : Text) : Bool :=
  pattern.openings.all fun opening => Text.leavesBlanks (Analysis.tailFrom pattern opening).tail

theorem Text.keepsBlanks_iff {pattern : Text} :
    pattern.keepsBlanks = true ↔
      ∀ offset body, pattern.OpensAt offset body → Text.leavesBlanks body = true := by
  rw [keepsBlanks, List.all_eq_true]
  constructor
  · intro keeps offset body opens
    have leaves := keeps offset (mem_openings_iff.mpr ⟨body, opens⟩)
    rwa [opens.tailFrom_eq] at leaves
  · intro keeps offset member
    obtain ⟨body, opens⟩ := mem_openings_iff.mp member
    rw [opens.tailFrom_eq]
    exact keeps offset body opens

/-! ## Captures -/

theorem Text.flagList?_ne_none {body : Text} (flags : GroupKind.isFlagBody body = true) :
    body.flagList? ≠ none := by
  unfold GroupKind.isFlagBody at flags
  split at flags
  · rename_i rest
    simp only [Bool.and_eq_true, Bool.or_eq_true, Bool.not_eq_true', beq_iff_eq,
      List.isEmpty_eq_false_iff] at flags
    obtain ⟨nonempty, closed⟩ := flags
    simp only [flagList?, if_neg nonempty]
    rcases closed with closed | closed <;> simp [closed]
  · cases flags

theorem Text.isCapturing_of_takesNumber {body : Text} (takes : body.takesNumber = true) :
    (GroupKind.ofBody body).isCapturing = true := by
  rw [takesNumber, Bool.and_eq_true, Bool.not_eq_true', List.any_eq_false,
    Option.isNone_iff_eq_none] at takes
  obtain ⟨noOpening, noFlags⟩ := takes
  have noPrefix {opening : Text} (known : opening ∈ unnumberedOpenings) :
      opening.isPrefixOf body = false :=
    Bool.eq_false_iff.mpr (noOpening opening known)
  have noLookaround : GroupKind.lookaroundOpenings.any (·.isPrefixOf body) = false := by
    rw [List.any_eq_false]
    intro opening known
    have unnumbered : ∀ opening ∈ GroupKind.lookaroundOpenings,
        opening ∈ unnumberedOpenings := by decide
    exact noOpening opening (unnumbered opening known)
  have noFlagBody : GroupKind.isFlagBody body = false :=
    Bool.eq_false_iff.mpr fun flags => flagList?_ne_none flags noFlags
  rw [GroupKind.ofBody, noPrefix (by decide), noLookaround, noPrefix (by decide), noFlagBody]
  simp only [Bool.false_eq_true, if_false, Bool.or_self]
  split <;> rfl

theorem Text.isSome_flagList? (body : Text) :
    body.flagList?.isSome = GroupKind.isFlagBody body := by
  unfold GroupKind.isFlagBody
  split
  · rename_i rest
    by_cases empty : rest.takeWhile GroupKind.isFlagLetter = []
    · simp [flagList?, empty]
    · simp only [flagList?, if_neg empty]
      split <;> simp_all
  · rename_i noQuestion
    unfold flagList?
    split
    · exact absurd rfl (noQuestion _)
    · rfl

/-- A name, known to the analysis or not, opens no flag list and no other group without
a number, unless it starts like a lookbehind. -/
theorem Text.takesNumber_of_nameOpening
    {mark name : Text} (known : mark ∈ GroupKind.nameOpenings) (nonempty : name ≠ [])
    (notEquals : name.head? ≠ some '=') (notExclamation : name.head? ≠ some '!')
    (rest : Text) : takesNumber (mark ++ name ++ rest) = true := by
  obtain ⟨first, name, rfl⟩ := List.exists_cons_of_ne_nil nonempty
  rw [List.head?_cons, ne_eq, Option.some.injEq] at notEquals notExclamation
  simp only [GroupKind.nameOpenings, List.mem_cons, List.not_mem_nil, or_false] at known
  rcases known with rfl | rfl
  · simp [takesNumber, unnumberedOpenings, flagList?, List.isPrefixOf, Ne.symm notEquals,
      Ne.symm notExclamation, GroupKind.isFlagLetter]
  · simp [takesNumber, unnumberedOpenings, flagList?, List.isPrefixOf, GroupKind.isFlagLetter]

theorem GroupKind.IsLabel.takesNumber
    {label name : Text} (written : IsLabel label name) (rest : Text) :
    Text.takesNumber (label ++ rest) = true := by
  obtain ⟨mark, known, rfl, nonempty, letters⟩ := written
  have firstLetter {first : Char} (starts : name.head? = some first) :
      isNameLetter first = true :=
    letters first (List.mem_of_mem_head? starts)
  rw [List.append_assoc]
  apply Text.takesNumber_of_nameOpening known nonempty
  · intro starts
    cases firstLetter starts
  · intro starts
    cases firstLetter starts

theorem Text.takesNumber_of_ofBody_eq_capturing
    {body : Text} (capturing : GroupKind.ofBody body = .capturing) :
    body.takesNumber = true := by
  unfold GroupKind.ofBody at capturing
  split at capturing
  case isTrue => cases capturing
  rename_i notPlain
  split at capturing
  case isTrue => cases capturing
  rename_i noLookaround
  split at capturing
  case h_1 => cases capturing
  split at capturing
  case isTrue => cases capturing
  rename_i noOther
  rw [Bool.or_eq_true, not_or] at noOther
  rw [List.any_eq_true, not_exists] at noLookaround
  rw [takesNumber, Bool.and_eq_true, Bool.not_eq_true', List.any_eq_false]
  refine ⟨fun opening known starts => ?_, ?_⟩
  · have cases : ∀ opening ∈ unnumberedOpenings, opening = "?:".toList ∨
        opening ∈ GroupKind.lookaroundOpenings ∨ opening = "?>".toList := by decide
    rcases cases opening known with rfl | lookaround | rfl
    · exact notPlain starts
    · exact noLookaround opening ⟨lookaround, starts⟩
    · exact noOther.1 starts
  · rw [← Option.not_isSome, isSome_flagList?, Bool.eq_false_iff.mpr noOther.2]
    rfl

/-- The classification agrees with the documented syntax on which groups take a
number. -/
theorem Text.isCapturing_ofBody (body : Text) :
    (GroupKind.ofBody body).isCapturing = body.takesNumber := by
  rw [Bool.eq_iff_iff]
  refine ⟨fun captures => ?_, isCapturing_of_takesNumber⟩
  cases kindEq : GroupKind.ofBody body with
  | named name length =>
      obtain ⟨label, rest, rfl, written, -⟩ := GroupKind.exists_label_of_named kindEq
      exact written.takesNumber rest
  | capturing => exact takesNumber_of_ofBody_eq_capturing kindEq
  | _ =>
      rw [kindEq] at captures
      cases captures

/-- While no group hides blanks, every numbered opening is a capture. -/
theorem Text.numberedOpenings_subset_captures
    {pattern : Text} (keeps : pattern.keepsBlanks = true) :
    pattern.numberedOpenings ⊆ pattern.captures := by
  have shows : Reader.start.ShowsBlanks := ⟨rfl, rfl, by simp [Reader.start]⟩
  rw [keepsBlanks_iff] at keeps
  intro position member
  obtain ⟨before, body, split, positionEq, outside, takes⟩ :=
    shows.opens_of_mem_numberedOpenings
      (fun before body split outside => keeps _ body ⟨before, split, rfl, outside⟩) member
  rw [Nat.zero_add] at positionEq
  exact mem_captures_iff.mpr
    ⟨body, ⟨before, split, positionEq, outside⟩, isCapturing_of_takesNumber takes⟩

/-- While no group hides blanks, the numbered openings are the captures. -/
theorem Text.numberedOpenings_eq_captures
    {pattern : Text} (keeps : pattern.keepsBlanks = true) :
    pattern.numberedOpenings = pattern.captures := by
  have shows : Reader.start.ShowsBlanks := ⟨rfl, rfl, by simp [Reader.start]⟩
  have keepsAll := keepsBlanks_iff.mp keeps
  have ordered := Reader.numberedOpenings_pairwise Reader.start 0 pattern
  have capturesOrdered := pattern.captures_pairwise
  have captures_subset : pattern.captures ⊆ pattern.numberedOpenings := by
    intro position member
    obtain ⟨body, ⟨before, split, rfl, outside⟩, capturing⟩ := mem_captures_iff.mp member
    have takes : body.takesNumber = true := by
      rw [← isCapturing_ofBody]
      exact capturing
    rw [← Nat.zero_add before.byteLength]
    exact shows.mem_numberedOpenings
      (fun before body split outside => keepsAll _ body ⟨before, split, rfl, outside⟩) split
      outside takes
  have same := (List.perm_ext_iff_of_nodup (ordered.imp Nat.ne_of_lt)
    (capturesOrdered.imp Nat.ne_of_lt)).mpr fun position =>
      ⟨fun member => numberedOpenings_subset_captures keeps member,
        fun member => captures_subset member⟩
  exact same.eq_of_pairwise (fun _ _ _ _ less greater => by omega) ordered capturesOrdered

end NamedCapture
