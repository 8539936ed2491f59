import Mathlib.Data.Bool.AllAny
import NamedCapture.Engine.Linear
import NamedCapture.Proofs.ClassReading
import NamedCapture.Proofs.GroupCursor

/-!
Contract: the reader of patterns without lookaround goes through a pattern in pieces,
as its dialect is documented, while blanks are visible.

Two things are read otherwise than the grammar of groups has them: a class with a range
up to a bracket, and a name with an opening bracket, which starts a class there.

Owns:
- the runs that meet neither, and no hidden blanks;
- the advance of the cursor with every step of a run.

Does not own: what a pattern matches.
-/

namespace NamedCapture

namespace PatternState

open GroupCursor

/-- What counts of a state for the groups of its pattern. -/
def cursor (state : PatternState) : GroupCursor :=
  ⟨state.outer.length, state.captures, state.rest⟩

/-- Whether no name so far has an opening bracket, and no class comes next that has a
range up to a bracket. -/
def meetsPlainly (state : PatternState) : Bool :=
  state.names.all (fun name => !name.contains '[') &&
    match state.rest with
    | '[' :: rest => NestedSet.readsPlainly state.flags rest
    | _ => true

/-- Whether that is so all along a run. -/
def runsPlainly : Nat → PatternState → Bool
  | 0, state => state.meetsPlainly
  | count + 1, state =>
      state.meetsPlainly &&
        match state.rest with
        | [] => true
        | character :: rest =>
            match state.step character rest with
            | .error _ => true
            | .ok following => runsPlainly count following

/-- Blanks are visible now and after every open group. -/
structure ShowsBlanks (state : PatternState) : Prop where
  visible : state.flags.ignoreSpace = false
  current : state.current.restored.ignoreSpace = false
  outer : ∀ group ∈ state.outer, group.restored.ignoreSpace = false

/-- A step moves the cursor on and leaves blanks visible. -/
structure Follows (state following : PatternState) : Prop where
  advances : state.cursor.Advances false following.cursor
  shows : following.ShowsBlanks

/-- A step opens and closes no group and leaves the flags as they are. -/
structure KeepsGroups (state following : PatternState) : Prop where
  outer : following.outer = state.outer
  captures : following.captures = state.captures
  flags : following.flags = state.flags
  restored : following.current.restored = state.current.restored

/-- Where nothing is there to repeat and blanks are visible, no mark for a repetition
comes next, unless too much text follows to say. -/
def RepeatsNothing (state : PatternState) (bound : Nat) : Prop :=
  state.current.items = [] → state.flags.ignoreSpace = false → state.rest.length ≤ bound →
    state.rest.head? ≠ some '?'

section Steps

variable {state following : PatternState}

theorem noBracket_of_meetsPlainly
    (plain : state.meetsPlainly = true) {name : Text} (given : name ∈ state.names) :
    '[' ∉ name := by
  unfold meetsPlainly at plain
  simp only [Bool.and_eq_true, List.all_eq_true] at plain
  simpa using plain.1 name given

theorem readsPlainly_of_meetsPlainly
    (plain : state.meetsPlainly = true) {rest : Text} (restEq : state.rest = '[' :: rest) :
    NestedSet.readsPlainly state.flags rest = true := by
  unfold meetsPlainly at plain
  rw [restEq, Bool.and_eq_true] at plain
  exact plain.2

theorem meetsPlainly_of_runsPlainly
    {count : Nat} (plain : state.runsPlainly count = true) : state.meetsPlainly = true := by
  cases count with
  | zero => exact plain
  | succ count =>
      unfold runsPlainly at plain
      rw [Bool.and_eq_true] at plain
      exact plain.1

theorem KeepsGroups.showsBlanks
    (keeps : KeepsGroups state following) (shows : state.ShowsBlanks) : following.ShowsBlanks := by
  refine ⟨?_, ?_, ?_⟩
  · rw [keeps.flags]
    exact shows.visible
  · rw [keeps.restored]
    exact shows.current
  · rw [keeps.outer]
    exact shows.outer

theorem RepeatsNothing.mono
    {bound least : Nat} (noMark : state.RepeatsNothing bound) (le : least ≤ bound) :
    state.RepeatsNothing least :=
  fun fresh visible shorter => noMark fresh visible (Nat.le_trans shorter le)

/-- An open capture restores the flags that are in force. -/
theorem ShowsBlanks.openGroup
    (shows : state.ShowsBlanks) {flags : PatternFlags} (visible : flags.ignoreSpace = false)
    (capture : Option Nat) (rest : Text) : (state.openGroup capture flags rest).ShowsBlanks :=
  ⟨visible, shows.visible, List.forall_mem_cons.mpr ⟨shows.current, shows.outer⟩⟩

/-! ## Single steps -/

/-- An item and ordinary characters behind it. -/
theorem follows_item
    (shows : state.ShowsBlanks) {middle : Text} (read : PlainItem state.rest middle)
    (ordinary : middle.OrdinaryUpTo following.rest) (keeps : KeepsGroups state following) :
    state.Follows following := by
  refine ⟨?_, keeps.showsBlanks shows⟩
  unfold cursor
  rw [keeps.outer, keeps.captures]
  exact Advances.past_ordinary (.single (.item _ _ read)) ordinary

theorem follows_add
    (shows : state.ShowsBlanks) {item : PatternItem} {middle rest : Text}
    (read : PlainItem state.rest middle) (ordinary : middle.OrdinaryUpTo rest) :
    state.Follows (state.add item rest) :=
  follows_item shows read ordinary ⟨rfl, rfl, rfl, rfl⟩

theorem keepsGroups_of_repeatLast
    {least : Nat} {most : Option Nat} {text : Text}
    (repeated : state.repeatLast least most text = .ok following) :
    text.OrdinaryUpTo following.rest ∧ KeepsGroups state following := by
  unfold repeatLast at repeated
  split at repeated
  · cases repeated
  · split at repeated
    · cases repeated
      refine ⟨?_, ⟨rfl, rfl, rfl, rfl⟩⟩
      split
      · exact .cons (by decide) (.refl _)
      · exact .refl _
    · cases repeated

theorem follows_of_repeatLast
    (shows : state.ShowsBlanks) {character : Char} {text bounds : Text} {least : Nat}
    {most : Option Nat} (restEq : state.rest = character :: text)
    (plainCharacter : character ∉ Text.delimiters) (ordinary : text.OrdinaryUpTo bounds)
    (repeated : state.repeatLast least most bounds = .ok following) :
    state.Follows following := by
  obtain ⟨marks, keeps⟩ := keepsGroups_of_repeatLast repeated
  simp only [Text.delimiters, List.mem_cons, List.not_mem_nil, or_false, not_or]
    at plainCharacter
  obtain ⟨notEscape, notBracket, -, notOpen, notClose⟩ := plainCharacter
  apply follows_item shows _ (ordinary.trans marks) keeps
  rw [restEq]
  exact .character text notEscape notBracket notOpen notClose

theorem follows_of_closeGroup
    (shows : state.ShowsBlanks) {text : Text} (restEq : state.rest = ')' :: text)
    (closed : state.closeGroup text = .ok following) : state.Follows following := by
  unfold closeGroup at closed
  split at closed
  · cases closed
  · rename_i outerEq
    cases closed
    have outer := shows.outer
    rw [outerEq, List.forall_mem_cons] at outer
    refine ⟨?_, ⟨shows.current, outer.1, outer.2⟩⟩
    unfold cursor
    rw [restEq, outerEq]
    exact .single (.closing _ _ text)

/-! ## Groups -/

/-- Only a bracket may stand in a name and has a meaning to the grammar of groups. -/
theorem not_isNameCharacter_of_break :
    ∀ character ∈ nameBreaks, character ≠ '[' → ∀ first,
      isNameCharacter first character = false :=
  List.all_iff_forall_prop.mp (by decide)

/-- The name that a group is opened with, and the text behind its end. -/
theorem exists_name_of_openNamed
    {text : Text} (opened : state.openNamed text = .ok following) :
    ∃ first later rest, text = first :: later ++ '>' :: rest ∧
      isNameCharacter true first = true ∧
      (∀ character ∈ later, isNameCharacter false character = true) ∧
      following =
        { state.openCapture rest with names := (first :: later) :: state.names } := by
  unfold openNamed at opened
  simp only at opened
  split at opened
  · cases opened
  · rename_i ending rest dropped
    split at opened
    · cases opened
    · rename_i first later nameEq
      split at opened
      · cases opened
      · rename_i characters
        split at opened
        · cases opened
        · cases opened
          simp only [Bool.or_eq_true, Bool.not_eq_true', not_or, Bool.not_eq_false,
            List.all_eq_true] at characters
          rw [nameEq] at dropped
          have split := Text.split_at_first nameEq dropped
          exact ⟨first, later, rest, split, characters.1, characters.2, by rw [nameEq]⟩

/-- A group with a name. -/
theorem follows_of_openNamed
    (shows : state.ShowsBlanks) {mark text : Text} (known : mark ∈ GroupKind.nameOpenings)
    (restEq : state.rest = '(' :: (mark ++ text)) (plain : following.meetsPlainly = true)
    (noMark : following.RepeatsNothing text.length)
    (opened : state.openNamed text = .ok following) : state.Follows following := by
  obtain ⟨first, later, rest, rfl, starts, continues, rfl⟩ := exists_name_of_openNamed opened
  have noBracket := noBracket_of_meetsPlainly plain List.mem_cons_self
  have letters : ∀ character ∈ first :: later, character ∉ nameBreaks := by
    intro character member special
    have notLetter := not_isNameCharacter_of_break character special
      fun bracket => noBracket (bracket ▸ member)
    rcases List.mem_cons.mp member with rfl | inLater
    · rw [notLetter] at starts
      cases starts
    · have continued := continues character inLater
      rw [notLetter] at continued
      cases continued
  have behind : rest.head? ≠ some '?' := by
    apply noMark rfl shows.visible
    change rest.length ≤ _
    simp only [List.length_append, List.length_cons]
    omega
  obtain ⟨visible, current, outer⟩ := shows.openGroup shows.visible (some (state.captures + 1)) rest
  refine ⟨?_, ⟨visible, current, outer⟩⟩
  unfold cursor
  rw [restEq, ← List.append_assoc]
  exact .single (.opening _ _ (.named known (List.cons_ne_nil _ _) letters behind))

/-- A group without a number, or flags that its closing parenthesis ends. -/
theorem advances_of_applyList
    {text rest : Text} {changed : PatternFlags} {isEmpty : Bool} {ending : Char}
    (shows : state.ShowsBlanks) (restEq : state.rest = '(' :: '?' :: text)
    (starts : Text.startsHiding ('?' :: text) = false)
    (read : state.flags.applyList [] text = .ok (changed, isEmpty, ending :: rest)) :
    changed.ignoreSpace = false ∧
    (ending = ':' → state.cursor.Advances false ⟨state.outer.length + 1, state.captures, rest⟩) ∧
    (ending ≠ ':' → isEmpty = false →
      state.cursor.Advances false ⟨state.outer.length, state.captures, rest⟩) := by
  obtain ⟨letters, found, after, split, foundEq, ends, applies, nonempty⟩ :=
    PatternFlags.exists_letters_of_applyList read
  obtain ⟨rfl, rfl⟩ := List.cons.inj foundEq
  rw [split] at starts restEq
  have off := Text.not_mem_of_startsHiding applies.known ends starts
  obtain ⟨inside, behind⟩ :=
    advances_flagList state.outer.length state.captures applies.known ends
  unfold cursor
  rw [restEq]
  exact ⟨applies.stays (.inr off) shows.visible, inside, fun noColon notEmpty =>
    behind noColon ((nonempty notEmpty).resolve_left (by simp))⟩

/-- Whatever a parenthesis opens. -/
theorem follows_of_openAt
    (shows : state.ShowsBlanks) {text : Text} (restEq : state.rest = '(' :: text)
    (starts : text.startsHiding = false) (plain : following.meetsPlainly = true)
    (noMark : following.RepeatsNothing text.length)
    (opened : state.openAt text = .ok following) : state.Follows following := by
  unfold openAt at opened
  rw [PatternFlags.skipBlank_eq shows.visible] at opened
  split at opened
  case h_5 =>
    have known : "?P<".toList ∈ GroupKind.nameOpenings := by decide
    apply follows_of_openNamed shows known restEq plain _ opened
    exact noMark.mono (by simp only [List.length_cons]; omega)
  case h_6 =>
    have known : "?<".toList ∈ GroupKind.nameOpenings := by decide
    apply follows_of_openNamed shows known restEq plain _ opened
    exact noMark.mono (by simp only [List.length_cons]; omega)
  case h_7 =>
    split at opened
    · cases opened
    · rename_i read
      cases opened
      obtain ⟨visible, advances, -⟩ := advances_of_applyList shows restEq starts read
      exact ⟨advances rfl, shows.openGroup visible none _⟩
    · rename_i notColon read
      split at opened
      · cases opened
      · rename_i notEmpty
        cases opened
        obtain ⟨visible, -, advances⟩ := advances_of_applyList shows restEq starts read
        exact ⟨advances notColon (by simpa using notEmpty), ⟨visible, shows.current, shows.outer⟩⟩
    · cases opened
  case h_8 noQuestion =>
    cases opened
    obtain ⟨visible, current, outer⟩ :=
      shows.openGroup shows.visible (some (state.captures + 1)) text
    refine ⟨?_, ⟨visible, current, outer⟩⟩
    unfold cursor
    rw [restEq]
    refine .single (.opening _ _ (.plain fun question => ?_))
    obtain ⟨after, afterEq⟩ := List.head?_eq_some_iff.mp question
    exact noQuestion after afterEq
  all_goals cases opened

/-! ## Runs -/

/-- One step of a run, as long as no mark comes where nothing is there to repeat. -/
theorem follows_of_step
    (shows : state.ShowsBlanks) {character : Char} {text : Text}
    (restEq : state.rest = character :: text)
    (starts : state.rest.EachBody fun body => body.startsHiding = false)
    (plain : state.meetsPlainly = true) (plainLater : following.meetsPlainly = true)
    (noMark : following.RepeatsNothing text.length)
    (stepped : state.step character text = .ok following) : state.Follows following := by
  have visible := shows.visible
  have single (notEscape : character ≠ '\\') (notBracket : character ≠ '[')
      (notOpen : character ≠ '(') (notClose : character ≠ ')') :
      PlainItem state.rest text := by
    rw [restEq]
    exact .character text notEscape notBracket notOpen notClose
  unfold step at stepped
  simp only [PatternFlags.skipBlank_eq visible, bind, Except.bind] at stepped
  split at stepped
  case h_1 =>
    rw [restEq] at starts
    exact follows_of_openAt shows restEq starts.here plainLater noMark stepped
  case h_2 => exact follows_of_closeGroup shows restEq stepped
  case h_3 =>
    cases stepped
    exact follows_item shows (single (by decide) (by decide) (by decide) (by decide)) (.refl _)
      ⟨rfl, rfl, rfl, rfl⟩
  case h_4 | h_5 | h_6 =>
    exact follows_of_repeatLast shows restEq (by decide) (.refl _) stepped
  case h_7 =>
    split at stepped
    · cases stepped
    · rename_i read
      exact follows_of_repeatLast shows restEq (by decide)
        (ordinaryUpTo_of_readBounds visible read) stepped
  case h_8 =>
    split at stepped
    · cases stepped
    · rename_i read
      cases stepped
      apply follows_add shows _ (.refl _)
      rw [restEq]
      exact NestedSet.plainItem_of_readBracket visible (readsPlainly_of_meetsPlainly plain restEq)
        read
  case h_9 =>
    split at stepped
    · cases stepped
    · cases stepped
      exact follows_add shows (single (by decide) (by decide) (by decide) (by decide)) (.refl _)
  case h_10 | h_11 =>
    cases stepped
    exact follows_add shows (single (by decide) (by decide) (by decide) (by decide)) (.refl _)
  case h_12 =>
    split at stepped
    · cases stepped
    · rename_i read
      cases stepped
      obtain ⟨escaped, after, rfl, ordinary⟩ := Primitive.exists_of_readEscape visible read
      apply follows_add shows _ ordinary
      rw [restEq]
      exact .escape escaped after
  case h_13 notOpen notClose _ _ _ _ _ notBracket _ _ _ notEscape =>
    cases stepped
    exact follows_add shows (single notEscape notBracket notOpen notClose) (.refl _)

/-- A run that goes on repeats nothing where there is nothing. -/
theorem repeatsNothing_of_run
    {count : Nat} {last : PatternState} (ran : state.run count = .ok last) :
    state.RepeatsNothing count := by
  intro fresh visible enough mark
  obtain ⟨after, restEq⟩ := List.head?_eq_some_iff.mp mark
  cases count with
  | zero =>
      rw [restEq] at enough
      cases enough
  | succ count =>
      unfold run at ran
      rw [PatternFlags.skipBlank_eq visible, restEq] at ran
      have refused : state.step '?' after =
          .error "a repetition has nothing to repeat" := by
        change state.repeatLast 0 (some 1) after = _
        unfold repeatLast
        rw [fresh]
      simp only [refused] at ran
      cases ran

/-- A run that is given enough turns goes through the whole text. -/
theorem reaches_of_run
    {count : Nat} {last : PatternState} (shows : state.ShowsBlanks)
    (starts : state.rest.EachBody fun body => body.startsHiding = false)
    (enough : state.rest.length ≤ count) (plain : state.runsPlainly count = true)
    (ran : state.run count = .ok last) :
    Reaches false state.cursor last.cursor ∧ last.rest = [] := by
  induction count generalizing state with
  | zero =>
      cases ran
      exact ⟨.refl, List.length_eq_zero_iff.mp (Nat.le_zero.mp enough)⟩
  | succ count inductionHypothesis =>
      have here := meetsPlainly_of_runsPlainly plain
      unfold runsPlainly at plain
      unfold run at ran
      rw [PatternFlags.skipBlank_eq shows.visible] at ran
      rw [Bool.and_eq_true] at plain
      split at ran
      · rename_i ended
        cases ran
        exact ⟨.refl, ended⟩
      · rename_i character text restEq
        rw [restEq, List.length_cons, Nat.add_le_add_iff_right] at enough
        split at ran
        · cases ran
        · rename_i following stepped
          have plainLater : following.runsPlainly count = true := by
            have later := plain.2
            rw [restEq] at later
            simp only [stepped] at later
            exact later
          have follows : state.Follows following :=
            follows_of_step shows restEq starts here (meetsPlainly_of_runsPlainly plainLater)
              ((repeatsNothing_of_run ran).mono enough) stepped
          have shorter : following.rest.length ≤ count := by
            have less : following.rest.length < state.rest.length := follows.advances.length_lt
            rw [restEq, List.length_cons] at less
            omega
          obtain ⟨reaches, ended⟩ := inductionHypothesis follows.shows
            (follows.advances.eachBody starts) shorter plainLater ran
          exact ⟨follows.advances.to_reflTransGen.trans reaches, ended⟩

end Steps

end PatternState

end NamedCapture
