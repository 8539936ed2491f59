import Mathlib.Data.Bool.AllAny
import NamedCapture.Proofs.Consumption

/-!
Contract: a class that a reader accepts ends where the grammar of groups says it ends,
while blanks are visible.

A range may end in an opening bracket, which is a member then. The grammar knows no
ranges and takes that bracket for the start of a nested class.

Owns:
- the classes without such a range;
- the derivation of what is read from the start of a class to its end.

Does not own: what a class matches.
-/

namespace NamedCapture

/-! ## Open classes -/

/-- The rest of so many classes around a class, and of that class itself. -/
inductive ClassTails : Nat → Text → Text → Prop where
  | innermost {text rest : Text} (read : ClassTail text rest) : ClassTails 0 text rest
  | around {depth : Nat} {text middle rest : Text} (read : ClassTail text middle)
      (later : ClassTails depth middle rest) : ClassTails (depth + 1) text rest

/-- What is read in front of the innermost class is read in front of all of them. -/
theorem ClassTails.prepend
    {depth : Nat} {text longer rest : Text} (tails : ClassTails depth text rest)
    (prepends : ∀ middle, ClassTail text middle → ClassTail longer middle) :
    ClassTails depth longer rest := by
  cases tails with
  | innermost read => exact .innermost (prepends _ read)
  | around read later => exact .around (prepends _ read) later

theorem ClassTail.of_ordinaryUpTo
    {text middle rest : Text} (ordinary : text.OrdinaryUpTo middle)
    (later : ClassTail middle rest) : ClassTail text rest := by
  obtain ⟨taken, rfl, ordinaryTaken⟩ := ordinary
  induction taken with
  | nil => exact later
  | cons character taken inductionHypothesis =>
      rw [List.forall_mem_cons] at ordinaryTaken
      simp only [Text.delimiters, List.mem_cons, List.not_mem_nil, or_false, not_or]
        at ordinaryTaken
      obtain ⟨⟨notEscape, notOpen, notClose, -⟩, others⟩ := ordinaryTaken
      apply ClassTail.member notEscape notOpen notClose
      apply inductionHypothesis
      simpa [Text.delimiters] using others

namespace BracketState

variable {flags : PatternFlags}

/-! ## Ranges up to a bracket -/

/-- Whether an item comes next and then a hyphen and an opening bracket, which is the
end of a range. -/
def rangesToBracket (flags : PatternFlags) (state : BracketState) : Bool :=
  match state.rest with
  | ']' :: _ => false
  | '[' :: _ => false
  | '-' :: _ => false
  | text =>
      match readItem flags text with
      | .ok (_, '-' :: '[' :: _) => true
      | _ => false

/-- Whether no range up to a bracket is met before the class is closed. -/
def staysPlain (flags : PatternFlags) : Nat → BracketState → Bool
  | 0, _ => true
  | count + 1, state =>
      !state.rangesToBracket flags &&
        match state.step flags with
        | .ok (.inl following) => staysPlain flags count following
        | _ => true

/-! ## Pieces of a class -/

/-- The names of classes are ordinary characters. -/
theorem not_mem_delimiters_of_namedClass?
    {name : Text} {set : CharSet} (known : namedClass? (String.ofList name) = some set) :
    ∀ character ∈ name, character ∉ Text.delimiters := by
  unfold namedClass? at known
  simp only [Option.map_eq_some_iff] at known
  obtain ⟨ranges, found, -⟩ := known
  split at found
  all_goals cases found
  all_goals
    rename_i nameEq
    have letters := congrArg String.toList nameEq
    rw [String.toList_ofList] at letters
    rw [letters]
    exact List.all_iff_forall_prop.mp (by decide)

/-- A class named between colons is a nested class to the grammar of groups. -/
theorem classTail_of_readNamed?
    {text remaining : Text} {set : CharSet} {negated : Bool}
    (read : readNamed? text = some (set, negated, remaining)) :
    ClassTail text.classContents remaining := by
  have close {body after : Text} (sign : Bool)
      (dropped : body.drop (body.takeWhile (· != ':')).length = ':' :: ']' :: after)
      (found : (namedClass? (String.ofList (body.takeWhile (· != ':')))).map (·, sign, after) =
        some (set, negated, remaining)) :
      ClassTail body remaining := by
    obtain ⟨members, known, whole⟩ := Option.map_eq_some_iff.mp found
    cases whole
    have split := Text.eq_append_of_drop (List.takeWhile_prefix _) dropped
    exact .of_ordinaryUpTo ⟨_, split, not_mem_delimiters_of_namedClass? known⟩
      (.member (by decide) (by decide) (by decide) (.close remaining))
  unfold readNamed? at read
  split at read
  case h_2 => cases read
  case h_1 afterColon =>
    have contents : Text.classContents (':' :: afterColon) = ':' :: afterColon := rfl
    rw [contents]
    apply ClassTail.member (by decide) (by decide) (by decide)
    cases afterColon with
    | nil => cases read
    | cons first rest =>
        by_cases caret : first = '^'
        · subst caret
          simp only at read
          split at read
          · rename_i dropped
            exact .member (by decide) (by decide) (by decide) (close true dropped read)
          · cases read
        · simp [caret] at read
          split at read
          · rename_i dropped
            exact close false dropped read
          · cases read

theorem ordinaryUpTo_readHyphens
    (visible : flags.ignoreSpace = false) (count : Nat) (text : Text) :
    text.OrdinaryUpTo (readHyphens flags count text).2 := by
  fun_induction readHyphens flags count text with
  | case1 count rest items remaining read inductionHypothesis =>
      rw [read, PatternFlags.skipBlank_eq visible] at inductionHypothesis
      exact .cons (by decide) inductionHypothesis
  | case2 => exact .refl _

/-- A text that starts with no closing bracket is read up to the first character
that is no hyphen. -/
theorem ordinaryUpTo_of_readHyphens
    (visible : flags.ignoreSpace = false) {count : Nat} {body rest : Text}
    {hyphens : List NestedSet} (noBracket : ∀ after, body ≠ ']' :: after)
    (read : readHyphens flags count body = (hyphens, rest)) :
    body.afterBracket.OrdinaryUpTo rest := by
  have ordinary := ordinaryUpTo_readHyphens visible count body
  rw [read] at ordinary
  unfold Text.afterBracket
  split
  · exact absurd rfl (noBracket _)
  · exact ordinary

/-- A class is opened where its contents start, or behind hyphens there. -/
theorem ordinaryUpTo_of_openAt
    (visible : flags.ignoreSpace = false) {text rest : Text} {bracket : OpenBracket}
    (opened : openAt flags text = .ok (bracket, rest)) :
    text.classContents.OrdinaryUpTo rest := by
  unfold openAt at opened
  simp only [PatternFlags.skipBlank_eq visible] at opened
  cases text with
  | nil => cases opened
  | cons first text =>
      rw [Text.classContents, Text.afterCaret_cons]
      by_cases caret : first = '^'
      · subst caret
        rw [if_pos rfl]
        simp only at opened
        split at opened
        · cases opened
        · split at opened
          · cases opened
          · cases opened
            exact .refl _
        · rename_i noBracket
          split at opened
          · cases opened
          · rename_i read
            cases opened
            exact ordinaryUpTo_of_readHyphens visible noBracket read
      · simp [caret] at opened
        rw [if_neg caret]
        split at opened
        · cases opened
        · rename_i literal
          rw [literal]
          split at opened
          · cases opened
          · cases opened
            exact .refl _
        · rename_i noBracket
          split at opened
          · cases opened
          · rename_i read
            cases opened
            exact ordinaryUpTo_of_readHyphens visible noBracket read

/-- An item takes what the grammar of groups takes, if no bracket comes first. -/
theorem classTail_of_readItem
    (visible : flags.ignoreSpace = false) {text rest middle : Text} {primitive : Primitive}
    (notOpen : ∀ after, text ≠ '[' :: after) (notClose : ∀ after, text ≠ ']' :: after)
    (read : readItem flags text = .ok (primitive, rest)) (later : ClassTail rest middle) :
    ClassTail text middle := by
  unfold readItem at read
  split at read
  · cases read
  · obtain ⟨character, after, rfl, ordinary⟩ := Primitive.exists_of_readEscape visible read
    exact .escape character (.of_ordinaryUpTo ordinary later)
  · rename_i character after notEscape
    cases read
    apply ClassTail.member _ _ _ later
    · exact notEscape
    · exact fun same => notOpen rest (by rw [same])
    · exact fun same => notClose rest (by rw [same])

theorem peekVisible?_eq (visible : flags.ignoreSpace = false) (text : Text) :
    peekVisible? flags text = text.head? := by
  unfold peekVisible?
  rw [visible]
  rfl

/-- An item or a range takes what the grammar of groups takes, if no bracket comes
first or at the end of the range. -/
theorem classTail_of_readRange
    (visible : flags.ignoreSpace = false) {text rest middle : Text} {set : CharSet}
    (notOpen : ∀ after, text ≠ '[' :: after) (notClose : ∀ after, text ≠ ']' :: after)
    (plain : ∀ primitive after, readItem flags text ≠ .ok (primitive, '-' :: '[' :: after))
    (read : readRange flags text = .ok (set, rest)) (later : ClassTail rest middle) :
    ClassTail text middle := by
  unfold readRange at read
  simp only [PatternFlags.skipBlank_eq visible, bind, Except.bind,
    peekVisible?_eq visible] at read
  split at read
  · cases read
  · rename_i item firstEq
    rcases item with ⟨first, afterFirst⟩
    apply classTail_of_readItem visible notOpen notClose firstEq
    simp only at read
    split at read
    · cases read
    · rename_i afterHyphen
      split at read
      · split at read
        · cases read
        · cases read
          exact later
      · rename_i noLiteral
        split at read
        · cases read
        · rename_i item lastEq
          rcases item with ⟨last, remaining⟩
          have notOpenLast (after : Text) : afterHyphen ≠ '[' :: after := by
            rintro rfl
            exact plain first after firstEq
          have notCloseLast (after : Text) : afterHyphen ≠ ']' :: after := by
            rintro rfl
            exact noLiteral (.inl rfl)
          simp only at read
          split at read
          · cases read
          · split at read
            · cases read
            · split at read
              · cases read
                exact .member (by decide) (by decide) (by decide)
                  (classTail_of_readItem visible notOpenLast notCloseLast lastEq later)
              · cases read
    · split at read
      · cases read
      · cases read
        exact later

/-! ## Reading to the end -/

/-- A closing bracket ends the innermost class: one around it goes on, or the whole
class is read. -/
theorem classTails_of_closeCurrent
    {state : BracketState} {rest : Text} {outcome : BracketState ⊕ (NestedSet × Text)}
    (closed : state.closeCurrent flags rest = .ok outcome) :
    match outcome with
    | .inl following => ∀ remaining, ClassTails following.outer.length following.rest remaining →
        ClassTails state.outer.length (']' :: rest) remaining
    | .inr (_, after) => ClassTails state.outer.length (']' :: rest) after := by
  unfold closeCurrent at closed
  simp only [bind, Except.bind] at closed
  split at closed
  · cases closed
  · split at closed
    · rename_i outermost
      cases closed
      rw [outermost]
      exact .innermost (.close rest)
    · rename_i nested
      cases closed
      rw [nested]
      exact fun remaining later => .around (.close rest) later

theorem readItem_ne_of_plain
    {state : BracketState} (plain : state.rangesToBracket flags = false)
    (notOpen : ∀ after, state.rest ≠ '[' :: after) (notClose : ∀ after, state.rest ≠ ']' :: after)
    (notOperator : ∀ after, state.rest ≠ '-' :: '-' :: after)
    (primitive : Primitive) (after : Text) :
    readItem flags state.rest ≠ .ok (primitive, '-' :: '[' :: after) := by
  intro read
  unfold rangesToBracket at plain
  split at plain
  · rename_i closes
    exact notClose _ closes
  · rename_i opens
    exact notOpen _ opens
  · rename_i hyphen
    rw [hyphen] at read
    cases read
    exact notOperator _ hyphen
  · rw [read] at plain
    cases plain

/-- One step: where it goes on, so many classes are still open, and they are read from
before it if they are read from after it. -/
theorem classTails_of_step
    (visible : flags.ignoreSpace = false) {state following : BracketState} {remaining : Text}
    (plain : state.rangesToBracket flags = false)
    (stepped : state.step flags = .ok (.inl following))
    (later : ClassTails following.outer.length following.rest remaining) :
    ClassTails state.outer.length state.rest remaining := by
  have twice {character : Char} {rest : Text} (ordinary : character ∉ Text.delimiters)
      (later : ClassTails state.outer.length rest remaining) :
      ClassTails state.outer.length (character :: character :: rest) remaining :=
    later.prepend fun middle =>
      .of_ordinaryUpTo (.cons ordinary (.cons ordinary (.refl rest)))
  unfold step at stepped
  simp only [PatternFlags.skipBlank_eq visible, bind, Except.bind] at stepped
  split at stepped
  case h_1 => cases stepped
  case h_2 rest restEq =>
    rw [restEq]
    exact classTails_of_closeCurrent stepped remaining later
  case h_3 restEq =>
    cases stepped
    rw [restEq]
    exact twice (by decide) later
  case h_4 restEq =>
    cases stepped
    rw [restEq]
    exact twice (by decide) later
  case h_5 restEq =>
    cases stepped
    rw [restEq]
    exact twice (by decide) later
  case h_6 restEq =>
    rw [restEq]
    split at stepped
    · rename_i named
      split at stepped
      · cases stepped
      · cases stepped
        exact later.prepend fun middle => .nested (classTail_of_readNamed? named)
    · split at stepped
      · cases stepped
      · rename_i opened
        cases stepped
        cases later with
        | around read later =>
            exact later.prepend fun middle =>
              .nested (.of_ordinaryUpTo (ordinaryUpTo_of_openAt visible opened) read)
  case h_7 _ notClose _ notOperator _ notOpen =>
    split at stepped
    · cases stepped
    · rename_i readEq
      cases stepped
      exact later.prepend fun middle =>
        classTail_of_readRange visible notOpen notClose
          (readItem_ne_of_plain plain notOpen notClose notOperator) readEq

/-- Only a closing bracket ends the whole class. -/
theorem classTails_of_finished
    (visible : flags.ignoreSpace = false) {state : BracketState} {closed : NestedSet}
    {rest : Text} (stepped : state.step flags = .ok (.inr (closed, rest))) :
    ClassTails state.outer.length state.rest rest := by
  unfold step at stepped
  simp only [PatternFlags.skipBlank_eq visible, bind, Except.bind] at stepped
  split at stepped
  case h_2 restEq =>
    rw [restEq]
    exact classTails_of_closeCurrent stepped
  case h_6 =>
    split at stepped
    all_goals split at stepped <;> cases stepped
  case h_7 => split at stepped <;> cases stepped
  all_goals cases stepped

/-- A run reads all open classes to their ends. -/
theorem classTails_of_run
    (visible : flags.ignoreSpace = false) {count : Nat} {state : BracketState}
    {closed : NestedSet} {rest : Text} (plain : state.staysPlain flags count = true)
    (ran : state.run flags count = .ok (closed, rest)) :
    ClassTails state.outer.length state.rest rest := by
  induction count generalizing state with
  | zero => cases ran
  | succ count inductionHypothesis =>
      unfold run at ran
      unfold staysPlain at plain
      rw [Bool.and_eq_true, Bool.not_eq_true'] at plain
      obtain ⟨here, later⟩ := plain
      split at ran
      · cases ran
      · rename_i stepped
        cases ran
        exact classTails_of_finished visible stepped
      · rename_i following stepped
        rw [stepped] at later
        exact classTails_of_step visible here stepped (inductionHypothesis later ran)

end BracketState

/-- Whether a class that starts with this text, after its opening bracket, has no range
up to a bracket. -/
def NestedSet.readsPlainly (flags : PatternFlags) (text : Text) : Bool :=
  match BracketState.openAt flags text with
  | .error _ => true
  | .ok (current, rest) => BracketState.staysPlain flags (rest.length + 1) ⟨current, [], rest⟩

/-- A class is read up to where the grammar of groups says it ends. -/
theorem NestedSet.plainItem_of_readBracket
    {flags : PatternFlags} (visible : flags.ignoreSpace = false) {text rest : Text}
    {item : NestedSet} (plain : readsPlainly flags text = true)
    (read : readBracket flags text = .ok (item, rest)) : PlainItem ('[' :: text) rest := by
  unfold readBracket at read
  unfold readsPlainly at plain
  split at read
  · cases read
  · rename_i opened
    rw [opened] at plain
    cases BracketState.classTails_of_run visible plain read with
    | innermost contents =>
        exact .bracket
          (.of_ordinaryUpTo (BracketState.ordinaryUpTo_of_openAt visible opened) contents)

end NamedCapture
