import Mathlib.Data.Bool.AllAny
import NamedCapture.Engine.Lookaround
import NamedCapture.Proofs.LookaroundConsumption

/-!
Contract: the reader of patterns with lookaround goes through a pattern in pieces, as its
dialect is documented, while blanks are visible.

The dialect has three things in parentheses that the grammar of groups takes for
captures: comments, conditionals and backreferences by name. They are left out here.

Owns:
- the runs of the dialect that meet no class which it reads otherwise;
- the advance of the cursor with every step of a run.

Does not own: what a pattern matches.
-/

namespace NamedCapture.Lookaround

namespace GroupForm

/-- Whether a group leaves blanks visible behind it and belongs to no conditional. -/
def isCalm : GroupForm → Bool
  | .flagged restored => !restored.ignoreSpace
  | .condition => false
  | .conditional _ _ => false
  | _ => true

end GroupForm

namespace ReadState

open GroupCursor

/-- What counts of a state for the groups of its pattern. -/
def cursor (state : ReadState) : GroupCursor :=
  ⟨state.outer.length, state.groups, state.rest⟩

/-- Whether no class comes next in which a nested one starts with its closing
bracket. -/
def meetsPlainly (state : ReadState) : Bool :=
  match state.rest with
  | '[' :: rest => readsClassPlainly state.flags rest
  | _ => true

/-- Whether that is so all along a run. -/
def runsPlainly : Nat → ReadState → Bool
  | 0, _ => true
  | count + 1, state =>
      state.meetsPlainly &&
        match state.rest with
        | [] => true
        | character :: rest =>
            match state.step character rest with
            | .error _ => true
            | .ok following => runsPlainly count following

/-- Blanks are visible now and after every open group, and no conditional is open. -/
structure IsCalm (state : ReadState) : Prop where
  visible : state.flags.ignoreSpace = false
  current : state.current.form.isCalm = true
  outer : ∀ group ∈ state.outer, group.form.isCalm = true

/-- A step moves the cursor on, leaves blanks visible and opens no conditional. -/
structure Follows (state following : ReadState) : Prop where
  advances : state.cursor.Advances false following.cursor
  calm : following.IsCalm

/-- A step opens and closes no group and leaves the flags as they are. -/
structure KeepsGroups (state following : ReadState) : Prop where
  outer : following.outer = state.outer
  groups : following.groups = state.groups
  flags : following.flags = state.flags
  form : following.current.form = state.current.form

/-- What is asked of the bodies in a pattern: they do not start to hide blanks, and
belong to groups that the grammar knows. -/
def Admits (body : Text) : Prop :=
  body.startsHiding = false ∧ body.isForeign = false

/-- While blanks are visible no mark for a repetition comes next, unless too much text
follows to say. -/
def RepeatsNothing (state : ReadState) (bound : Nat) : Prop :=
  state.flags.ignoreSpace = false → state.rest.length ≤ bound → state.rest.head? ≠ some '?'

section Steps

variable {state following : ReadState}

theorem meetsNoComment_of_admits {text : Text} (each : text.EachBody Admits) :
    text.MeetsNoComment :=
  Text.EachBody.meetsNoComment fun offset body opens => (each offset body opens).2

theorem KeepsGroups.isCalm
    (keeps : KeepsGroups state following) (calm : state.IsCalm) : following.IsCalm := by
  refine ⟨?_, ?_, ?_⟩
  · rw [keeps.flags]
    exact calm.visible
  · rw [keeps.form]
    exact calm.current
  · rw [keeps.outer]
    exact calm.outer

theorem IsCalm.openGroup
    (calm : state.IsCalm) {form : GroupForm} (formCalm : form.isCalm = true) (rest : Text) :
    (state.openGroup form rest).IsCalm :=
  ⟨calm.visible, formCalm, List.forall_mem_cons.mpr ⟨calm.current, calm.outer⟩⟩

theorem RepeatsNothing.mono
    {bound least : Nat} (noMark : state.RepeatsNothing bound) (le : least ≤ bound) :
    state.RepeatsNothing least :=
  fun visible shorter => noMark visible (Nat.le_trans shorter le)

/-! ## Single steps -/

/-- A node is added with the repetition behind it. -/
theorem keepsGroups_of_add
    (visible : state.flags.ignoreSpace = false) {node : Node} {text : Text}
    (noComment : text.MeetsNoComment) (added : state.add node text = .ok following) :
    text.OrdinaryUpTo following.rest ∧ KeepsGroups state following := by
  unfold add at added
  simp only [bind, Except.bind] at added
  split at added
  · cases added
  · rename_i read
    cases added
    exact ⟨ordinaryUpTo_of_readRepetition visible noComment read, ⟨rfl, rfl, rfl, rfl⟩⟩

/-- An item, ordinary characters behind it, and a repetition. -/
theorem follows_of_add
    (calm : state.IsCalm) (each : state.rest.EachBody Admits) {node : Node} {middle rest : Text}
    (read : PlainItem state.rest middle) (ordinary : middle.OrdinaryUpTo rest)
    (added : state.add node rest = .ok following) : state.Follows following := by
  have eachBehind := (Text.eachBody_iff_of_plainItem read).mp each
  have noComment := meetsNoComment_of_admits (eachBehind.past_ordinary ordinary)
  obtain ⟨repetition, keeps⟩ := keepsGroups_of_add calm.visible noComment added
  refine ⟨?_, keeps.isCalm calm⟩
  unfold cursor
  rw [keeps.outer, keeps.groups]
  exact Advances.past_ordinary (.single (.item _ _ read)) (ordinary.trans repetition)

theorem follows_of_addEscape
    (calm : state.IsCalm) (each : state.rest.EachBody Admits) {escape : Escape}
    {middle rest : Text} (read : PlainItem state.rest middle) (ordinary : middle.OrdinaryUpTo rest)
    (added : state.addEscape escape rest = .ok following) : state.Follows following := by
  unfold addEscape at added
  split at added
  · exact follows_of_add calm each read ordinary added
  · have used : IsCalm { state with usesNumbers := true } :=
      ⟨calm.visible, calm.current, calm.outer⟩
    obtain ⟨advances, calmLater⟩ := follows_of_add used each read ordinary added
    exact ⟨advances, calmLater⟩
  · simp only [bind, Except.bind] at added
    split at added
    · cases added
    · exact follows_of_add calm each read ordinary added

theorem follows_of_closeGroup
    (calm : state.IsCalm) {text : Text} (restEq : state.rest = ')' :: text)
    (each : state.rest.EachBody Admits) (closed : state.closeGroup text = .ok following) :
    state.Follows following := by
  rw [restEq] at each
  have noComment : text.MeetsNoComment :=
    meetsNoComment_of_admits (each.past_cons (by decide) (by decide))
  have current := calm.current
  unfold closeGroup at closed
  split at closed
  · cases closed
  · rename_i around outer outerEq
    have outerCalm := calm.outer
    rw [outerEq, List.forall_mem_cons] at outerCalm
    have finish {flags : Flags} (visible : flags.ignoreSpace = false)
        (closed : ({ state with current := around, outer, flags } : ReadState).add
          state.current.close text = .ok following) : state.Follows following := by
      have behind : IsCalm { state with current := around, outer, flags } :=
        ⟨visible, outerCalm.1, outerCalm.2⟩
      obtain ⟨repetition, keeps⟩ := keepsGroups_of_add behind.visible noComment closed
      refine ⟨?_, keeps.isCalm behind⟩
      unfold cursor
      rw [keeps.outer, keeps.groups, restEq, outerEq]
      exact Advances.past_ordinary (.single (.closing _ _ text)) repetition
    split at closed
    · cases closed
    · split at closed
      · cases closed
      · split at closed
        · rename_i condition
          rw [condition] at current
          cases current
        · apply finish _ closed
          split
          · rename_i restored flagged
            rw [flagged] at current
            simpa [GroupForm.isCalm] using current
          · exact calm.visible

/-! ## Groups -/

theorem follows_of_openNamed
    (calm : state.IsCalm) {mark text : Text} (known : mark ∈ GroupKind.nameOpenings)
    (restEq : state.rest = '(' :: (mark ++ text))
    (noMark : following.RepeatsNothing text.length)
    (opened : state.openNamed text = .ok following) : state.Follows following := by
  unfold openNamed at opened
  split at opened
  · cases opened
  · rename_i name rest named
    cases opened
    obtain ⟨split, nonempty, letters⟩ := exists_name_of_readName? named
    have letter {character : Char} (member : character ∈ name) :
        isNameCharacter character = true :=
      (letters character member).resolve_right (by simp)
    have nameLetters : ∀ character ∈ name, character ∉ nameBreaks := by
      intro character member special
      have foreign : ∀ character ∈ nameBreaks, isNameCharacter character = false :=
        List.all_iff_forall_prop.mp (by decide)
      have known := letter member
      rw [foreign character special] at known
      cases known
    have behind : rest.head? ≠ some '?' := by
      apply noMark calm.visible
      change rest.length ≤ _
      rw [split, List.length_append, List.length_cons]
      omega
    have capture : GroupForm.isCalm .capture = true := rfl
    obtain ⟨visible, current, outer⟩ := calm.openGroup capture rest
    refine ⟨?_, ⟨visible, current, outer⟩⟩
    unfold cursor
    rw [restEq, split, ← List.append_assoc]
    exact .single (.opening _ _ (.named known nonempty nameLetters behind))

/-- A group without a number, or flags that are in force up to the end of the group
around them. -/
theorem advances_of_applyList
    (calm : state.IsCalm) {text rest : Text} {changed : Flags} {ending : Char}
    (restEq : state.rest = '(' :: '?' :: text) (each : state.rest.EachBody Admits)
    (read : state.flags.applyList true text.length (text.length + 1) text =
      .ok (changed, ending :: rest)) :
    changed.ignoreSpace = false ∧
    (ending = ':' → state.cursor.Advances false ⟨state.outer.length + 1, state.groups, rest⟩) ∧
    (ending ≠ ':' → state.cursor.Advances false ⟨state.outer.length, state.groups, rest⟩) := by
  rw [restEq] at each
  have behind : Text.EachBody Admits ('?' :: text) := each.past_cons (by decide) (by decide)
  have noComment := meetsNoComment_of_admits (behind.past_cons (by decide) (by decide))
  have starts := each.here.1
  have shows : 'x' ∉ (text.takeWhile GroupKind.isFlagLetter).takeWhile (· ≠ '-') := by
    simpa [Text.startsHiding] using starts
  obtain ⟨letters, found, after, split, foundEq, ends, known, visible, nonempty⟩ :=
    Flags.exists_letters_of_applyList calm.visible noComment (fun _ => shows) read
  obtain ⟨rfl, rfl⟩ := List.cons.inj foundEq
  have some (noColon : ending ≠ ':') : letters ≠ [] := by
    rintro rfl
    apply nonempty (ends.resolve_right noColon)
    rw [split]
    rfl
  rw [split] at restEq
  obtain ⟨inside, behind⟩ := advances_flagList state.outer.length state.groups known ends
  unfold cursor
  rw [restEq]
  exact ⟨visible, inside, fun noColon => behind noColon (some noColon)⟩

/-- Flags inside the group that they open. -/
theorem follows_of_flagsInside
    (calm : state.IsCalm) {text remaining : Text} {changed : Flags}
    (restEq : state.rest = '(' :: '?' :: text) (each : state.rest.EachBody Admits)
    (read : state.flags.applyList true text.length (text.length + 1) text =
      .ok (changed, ':' :: remaining)) :
    state.Follows { state.openGroup (.flagged state.flags) remaining with flags := changed } := by
  obtain ⟨visible, advances, -⟩ := advances_of_applyList calm restEq each read
  have formCalm : GroupForm.isCalm (.flagged state.flags) = true := by
    rw [GroupForm.isCalm, calm.visible]
    rfl
  obtain ⟨-, current, outer⟩ := calm.openGroup formCalm remaining
  exact ⟨advances rfl, ⟨visible, current, outer⟩⟩

/-- Flags behind the parenthesis that ends them, and a repetition of nothing. -/
theorem follows_of_flagsBehind
    (calm : state.IsCalm) {text remaining : Text} {changed : Flags} {ending : Char}
    (restEq : state.rest = '(' :: '?' :: text) (each : state.rest.EachBody Admits)
    (noColon : ending ≠ ':')
    (read : state.flags.applyList true text.length (text.length + 1) text =
      .ok (changed, ending :: remaining))
    (added : ({ state with flags := changed } : ReadState).add .empty remaining =
      .ok following) : state.Follows following := by
  obtain ⟨visible, -, advances⟩ := advances_of_applyList calm restEq each read
  have moved := advances noColon
  have changedCalm : IsCalm { state with flags := changed } :=
    ⟨visible, calm.current, calm.outer⟩
  have behind : Text.MeetsNoComment remaining :=
    meetsNoComment_of_admits (moved.eachBody each)
  obtain ⟨repetition, keeps⟩ := keepsGroups_of_add visible behind added
  refine ⟨?_, keeps.isCalm changedCalm⟩
  unfold cursor
  rw [keeps.outer, keeps.groups]
  exact moved.past_ordinary repetition

/-- A group that starts with a mark for groups without a number. -/
theorem follows_openGroup
    (calm : state.IsCalm) (mark : Text) (known : mark ∈ Text.unnumberedOpenings)
    {rest : Text} (restEq : state.rest = '(' :: (mark ++ rest)) {form : GroupForm}
    (formCalm : form.isCalm = true) : state.Follows (state.openGroup form rest) := by
  refine ⟨?_, calm.openGroup formCalm rest⟩
  unfold cursor
  rw [restEq]
  exact .single (.opening _ _ (.unnumbered known rest))

/-- A group without a mark. -/
theorem follows_openCapture
    (calm : state.IsCalm) {text : Text} (restEq : state.rest = '(' :: text)
    (noMark : text.head? ≠ some '?') : state.Follows (state.openCapture text) := by
  have capture : GroupForm.isCalm .capture = true := rfl
  obtain ⟨visible, current, outer⟩ := calm.openGroup capture text
  refine ⟨?_, ⟨visible, current, outer⟩⟩
  unfold cursor
  rw [restEq]
  exact .single (.opening _ _ (.plain noMark))

/-- Whatever a parenthesis opens. -/
theorem follows_of_openAt
    (calm : state.IsCalm) {text : Text} (restEq : state.rest = '(' :: text)
    (each : state.rest.EachBody Admits) (noMark : following.RepeatsNothing text.length)
    (opened : state.openAt text = .ok following) : state.Follows following := by
  have eachText := each
  rw [restEq] at eachText
  have noComment : text.MeetsNoComment :=
    meetsNoComment_of_admits (eachText.past_cons (by decide) (by decide))
  have notForeign := eachText.here.2
  unfold openAt at opened
  simp only [Flags.skip_of_meetsNoComment calm.visible noComment, bind, Except.bind] at opened
  split at opened
  · cases opened
  split at opened
  case h_1 =>
    cases opened
    exact follows_openGroup calm "?=".toList (by decide) restEq rfl
  case h_2 =>
    cases opened
    exact follows_openGroup calm "?!".toList (by decide) restEq rfl
  case h_3 =>
    cases opened
    exact follows_openGroup calm "?<=".toList (by decide) restEq rfl
  case h_4 =>
    cases opened
    exact follows_openGroup calm "?<!".toList (by decide) restEq rfl
  case h_8 =>
    cases opened
    exact follows_openGroup calm "?>".toList (by decide) restEq rfl
  case h_5 =>
    have known : "?<".toList ∈ GroupKind.nameOpenings := by decide
    apply follows_of_openNamed calm known restEq _ opened
    exact noMark.mono (by simp only [List.length_cons]; omega)
  case h_6 =>
    have known : "?P<".toList ∈ GroupKind.nameOpenings := by decide
    apply follows_of_openNamed calm known restEq _ opened
    exact noMark.mono (by simp only [List.length_cons]; omega)
  case h_7 | h_9 => simp [Text.isForeign, Text.foreignMarks] at notForeign
  case h_10 =>
    split at opened
    · cases opened
    · rename_i read
      split at opened
      · cases opened
        exact follows_of_flagsInside calm restEq each read
      · rename_i noColon
        exact follows_of_flagsBehind calm restEq each noColon read opened
      · cases opened
  case h_11 noQuestion =>
    cases opened
    apply follows_openCapture calm restEq
    intro question
    obtain ⟨after, afterEq⟩ := List.head?_eq_some_iff.mp question
    exact noQuestion after afterEq

/-! ## Runs -/

/-- One step of a run, as long as no mark comes where nothing is there to repeat. -/
theorem follows_of_step
    (calm : state.IsCalm) {character : Char} {text : Text}
    (restEq : state.rest = character :: text) (each : state.rest.EachBody Admits)
    (plain : state.meetsPlainly = true) (noMark : following.RepeatsNothing text.length)
    (stepped : state.step character text = .ok following) : state.Follows following := by
  have single (notEscape : character ≠ '\\') (notBracket : character ≠ '[')
      (notOpen : character ≠ '(') (notClose : character ≠ ')') :
      PlainItem state.rest text := by
    rw [restEq]
    exact .character text notEscape notBracket notOpen notClose
  unfold step at stepped
  simp only [bind, Except.bind] at stepped
  split at stepped
  case h_1 => exact follows_of_openAt calm restEq each noMark stepped
  case h_2 => exact follows_of_closeGroup calm restEq each stepped
  case h_3 =>
    cases stepped
    refine ⟨?_, ⟨calm.visible, calm.current, calm.outer⟩⟩
    exact .single (.item _ _ (single (by decide) (by decide) (by decide) (by decide)))
  case h_4 | h_5 | h_6 => cases stepped
  case h_7 | h_8 | h_9 =>
    exact follows_of_add calm each (single (by decide) (by decide) (by decide) (by decide))
      (.refl _) stepped
  case h_10 =>
    split at stepped
    · cases stepped
    · rename_i read
      have classPlain : readsClassPlainly state.flags text = true := by
        unfold meetsPlainly at plain
        rw [restEq] at plain
        exact plain
      have item := plainItem_of_readClass classPlain read
      rw [← restEq] at item
      exact follows_of_add calm each item (.refl _) stepped
  case h_11 =>
    split at stepped
    · cases stepped
    · rename_i read
      obtain ⟨escaped, after, rfl, ordinary⟩ := exists_of_readEscape read
      apply follows_of_addEscape calm each _ ordinary stepped
      rw [restEq]
      exact .escape escaped after
  case h_12 notOpen notClose _ _ _ _ _ _ _ notBracket notEscape =>
    exact follows_of_add calm each (single notEscape notBracket notOpen notClose) (.refl _) stepped

/-- A run that goes on repeats nothing where there is nothing. -/
theorem repeatsNothing_of_run
    {count : Nat} {last : ReadState} (ran : state.run count = .ok last) :
    state.RepeatsNothing count := by
  intro visible enough mark
  obtain ⟨after, restEq⟩ := List.head?_eq_some_iff.mp mark
  cases count with
  | zero =>
      rw [restEq] at enough
      cases enough
  | succ count =>
      have noComment : "(?#".toList.isPrefixOf ('?' :: after) = false := by
        simp [List.isPrefixOf]
      unfold run at ran
      rw [restEq, Flags.skip_eq visible noComment] at ran
      cases ran

/-- A run that is given enough turns goes through the whole text. -/
theorem reaches_of_run
    {count : Nat} {last : ReadState} (calm : state.IsCalm) (each : state.rest.EachBody Admits)
    (enough : state.rest.length ≤ count) (plain : state.runsPlainly count = true)
    (ran : state.run count = .ok last) :
    Reaches false state.cursor last.cursor ∧ last.rest = [] := by
  induction count generalizing state with
  | zero =>
      cases ran
      exact ⟨.refl, List.length_eq_zero_iff.mp (Nat.le_zero.mp enough)⟩
  | succ count inductionHypothesis =>
      unfold runsPlainly at plain
      unfold run at ran
      rw [Flags.skip_of_meetsNoComment calm.visible (meetsNoComment_of_admits each)] at ran
      rw [Bool.and_eq_true] at plain
      cases restEq : state.rest with
      | nil =>
          rw [restEq] at ran
          cases ran
          exact ⟨.refl, restEq⟩
      | cons character text =>
          obtain ⟨here, later⟩ := plain
          rw [restEq] at ran later
          rw [restEq, List.length_cons, Nat.add_le_add_iff_right] at enough
          simp only at ran later
          split at ran
          · cases ran
          · rename_i following stepped
            simp only [stepped] at later
            have follows : state.Follows following :=
              follows_of_step calm restEq each here ((repeatsNothing_of_run ran).mono enough)
                stepped
            have shorter : following.rest.length ≤ count := by
              have less : following.rest.length < state.rest.length := follows.advances.length_lt
              rw [restEq, List.length_cons] at less
              omega
            obtain ⟨reaches, ended⟩ := inductionHypothesis follows.calm
              (follows.advances.eachBody each) shorter later ran
            exact ⟨follows.advances.to_reflTransGen.trans reaches, ended⟩

end Steps

end ReadState

end NamedCapture.Lookaround
