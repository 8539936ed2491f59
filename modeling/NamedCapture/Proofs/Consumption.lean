import Mathlib.Data.Bool.AllAny
import NamedCapture.Expression.Reading.Pattern
import NamedCapture.Proofs.EngineNumbering

/-!
Contract: how much of a text a reader takes for one piece of a pattern, while blanks
are visible.

Owns:
- texts that are ordinary characters up to a rest;
- what is taken for an escape, for the bounds of a repetition, and for a flag list.

Does not own: classes and groups, or what a piece means.
-/

namespace NamedCapture

/-! ## Ordinary characters -/

namespace Text

/-- The characters that have a meaning to the grammar of groups, in a class or outside
of one. -/
def delimiters : List Char :=
  ['\\', '[', ']', '(', ')']

/-- The text is a run of characters that are no delimiters, and then the rest. -/
def OrdinaryUpTo (text rest : Text) : Prop :=
  ∃ taken : Text, text = taken ++ rest ∧ ∀ character ∈ taken, character ∉ delimiters

theorem OrdinaryUpTo.refl (text : Text) : text.OrdinaryUpTo text :=
  ⟨[], rfl, by simp⟩

theorem OrdinaryUpTo.trans
    {text middle rest : Text} (first : text.OrdinaryUpTo middle)
    (second : middle.OrdinaryUpTo rest) : text.OrdinaryUpTo rest := by
  obtain ⟨front, rfl, ordinaryFront⟩ := first
  obtain ⟨back, rfl, ordinaryBack⟩ := second
  refine ⟨front ++ back, by rw [List.append_assoc], ?_⟩
  intro character member
  rcases List.mem_append.mp member with inFront | inBack
  · exact ordinaryFront character inFront
  · exact ordinaryBack character inBack

theorem OrdinaryUpTo.cons
    {character : Char} {text rest : Text} (ordinary : character ∉ delimiters)
    (later : text.OrdinaryUpTo rest) : OrdinaryUpTo (character :: text) rest := by
  obtain ⟨taken, rfl, ordinaryTaken⟩ := later
  exact ⟨character :: taken, rfl, List.forall_mem_cons.mpr ⟨ordinary, ordinaryTaken⟩⟩

/-- A character that is accepted where no delimiter is. -/
theorem not_mem_delimiters_of_accepted
    {accepts : Char → Bool} (foreign : ∀ delimiter ∈ delimiters, accepts delimiter = false)
    {character : Char} (accepted : accepts character = true) : character ∉ delimiters := by
  intro member
  rw [foreign character member] at accepted
  cases accepted

theorem ordinaryUpTo_dropWhile
    (accepts : Char → Bool) (foreign : ∀ delimiter ∈ delimiters, accepts delimiter = false)
    (text : Text) : text.OrdinaryUpTo (text.dropWhile accepts) := by
  refine ⟨text.takeWhile accepts, List.takeWhile_append_dropWhile.symm, ?_⟩
  intro character member
  have accepted := List.all_eq_true.mp List.all_takeWhile character member
  exact not_mem_delimiters_of_accepted foreign accepted

theorem eq_append_of_drop
    {text taken rest : Text} (starts : taken <+: text)
    (dropped : text.drop taken.length = rest) : text = taken ++ rest := by
  rw [← dropped]
  exact (List.prefix_iff_eq_append.mp starts).symm

theorem ordinaryUpTo_drop_takeWhile
    (accepts : Char → Bool) (foreign : ∀ delimiter ∈ delimiters, accepts delimiter = false)
    (text : Text) : text.OrdinaryUpTo (text.drop (text.takeWhile accepts).length) :=
  ⟨text.takeWhile accepts, eq_append_of_drop (List.takeWhile_prefix accepts) rfl,
    fun character member => not_mem_delimiters_of_accepted foreign
      (List.all_eq_true.mp List.all_takeWhile character member)⟩

/-- What is taken up to a character, and what is left from it on. -/
theorem split_at_first
    {text taken rest : Text} {stop character : Char}
    (takenEq : text.takeWhile (· != stop) = taken)
    (dropped : text.drop taken.length = character :: rest) :
    text = taken ++ stop :: rest := by
  have starts : taken <+: text := by
    rw [← takenEq]
    exact List.takeWhile_prefix _
  have split := eq_append_of_drop starts dropped
  have others : ∀ letter ∈ taken, (letter != stop) = true := by
    rw [← takenEq]
    exact List.all_eq_true.mp List.all_takeWhile
  have found : character = stop := by
    by_contra other
    have longer : text.takeWhile (· != stop) =
        taken ++ character :: rest.takeWhile (· != stop) := by
      rw [split, List.takeWhile_append_of_pos others, List.takeWhile_cons_of_pos]
      simpa using other
    rw [takenEq] at longer
    have lengths := congrArg List.length longer
    simp at lengths
  rw [split, found]

end Text

/-! ## Visible text -/

namespace PatternFlags

theorem skipBlank_eq {flags : PatternFlags} (visible : flags.ignoreSpace = false)
    (text : Text) : flags.skipBlank text = text := by
  unfold skipBlank
  rw [visible]
  rfl

theorem spanVisible_eq {flags : PatternFlags} (visible : flags.ignoreSpace = false)
    (accepts : Char → Bool) (text : Text) :
    flags.spanVisible accepts text = (text.takeWhile accepts, text.dropWhile accepts) := by
  unfold spanVisible
  induction text with
  | nil => rfl
  | cons character text inductionHypothesis =>
      unfold spanVisibleFrom
      by_cases accepted : accepts character = true
      · simp [accepted, inductionHypothesis]
      · simp [accepted, visible]

end PatternFlags

/-! ## Escapes -/

namespace Primitive

open Text

variable {flags : PatternFlags}

theorem hexDigit?_isSome_of_delimiter :
    ∀ delimiter ∈ delimiters, (hexDigit? delimiter).isSome = false :=
  List.all_iff_forall_prop.mp (by decide)

theorem ordinaryUpTo_of_takeHexDigits
    (visible : flags.ignoreSpace = false) {count : Nat} {text digits rest : Text}
    (read : takeHexDigits flags count text = .ok (digits, rest)) : text.OrdinaryUpTo rest := by
  induction count generalizing text digits with
  | zero =>
      cases read
      exact .refl _
  | succ count inductionHypothesis =>
      cases text with
      | nil => cases read
      | cons character text =>
          unfold takeHexDigits at read
          rw [PatternFlags.skipBlank_eq visible] at read
          split at read
          · rename_i digit
            split at read
            · cases read
            · rename_i later
              cases read
              exact .cons (not_mem_delimiters_of_accepted hexDigit?_isSome_of_delimiter digit)
                (inductionHypothesis later)
          · cases read

theorem ordinaryUpTo_of_readCodePoint
    (visible : flags.ignoreSpace = false) {count : Nat} {text rest : Text}
    {primitive : Primitive} (read : readCodePoint flags count text = .ok (primitive, rest)) :
    text.OrdinaryUpTo rest := by
  unfold readCodePoint at read
  simp only [PatternFlags.skipBlank_eq visible, PatternFlags.spanVisible_eq visible] at read
  split at read
  · rename_i inside
    have digits := ordinaryUpTo_dropWhile _ hexDigit?_isSome_of_delimiter inside
    split at read
    · cases read
    · rename_i remaining spanEq
      have restEq := (Prod.mk.inj spanEq).2
      rw [restEq] at digits
      split at read
      · cases read
      · split at read
        · cases read
        · cases read
          exact .cons (by decide) (digits.trans (.cons (by decide) (.refl _)))
    · cases read
  · split at read
    · cases read
    · rename_i taken
      split at read
      · cases read
      · split at read
        · cases read
        · cases read
          exact ordinaryUpTo_of_takeHexDigits visible taken

theorem rest_eq_of_readProperty
    {property : Bool → CharProperty} {negated : Bool} {text rest : Text} {primitive : Primitive}
    (read : readProperty flags property negated text = .ok (primitive, rest)) : rest = text := by
  unfold readProperty at read
  simp only at read
  split at read
  · split at read
    · cases read
      rfl
    · cases read
  · cases read
    rfl

theorem ordinaryUpTo_of_readBoundary
    (visible : flags.ignoreSpace = false) {text rest : Text} {primitive : Primitive}
    (read : readBoundary flags text = .ok (primitive, rest)) : text.OrdinaryUpTo rest := by
  unfold readBoundary at read
  simp only [PatternFlags.skipBlank_eq visible, PatternFlags.spanVisible_eq visible] at read
  split at read
  · rename_i inside
    have name := ordinaryUpTo_dropWhile
      (fun character => character.isAlpha || character == '-')
      (List.all_iff_forall_prop.mp (by decide)) inside
    split at read
    · cases read
    · split at read
      · split at read
        · rename_i remaining spanEq
          have restEq := (Prod.mk.inj spanEq).2
          rw [restEq] at name
          have whole : OrdinaryUpTo ('{' :: _) remaining :=
            .cons (by decide) (name.trans (.cons (by decide) (.refl _)))
          split at read
          all_goals cases read
          all_goals exact whole
        · cases read
      · cases read
        exact .refl _
  · cases read
    exact .refl _

/-- An escape takes one character, whatever it is, and then ordinary ones. -/
theorem exists_of_readEscape
    (visible : flags.ignoreSpace = false) {text rest : Text} {primitive : Primitive}
    (read : readEscape flags text = .ok (primitive, rest)) :
    ∃ character after, text = character :: after ∧ OrdinaryUpTo after rest := by
  unfold readEscape at read
  split at read
  · cases read
  · rename_i character after
    refine ⟨character, after, rfl, ?_⟩
    split at read
    · cases read
      exact .refl _
    · split at read
      all_goals first
        | exact ordinaryUpTo_of_readCodePoint visible read
        | exact ordinaryUpTo_of_readBoundary visible read
        | (rw [rest_eq_of_readProperty read]; exact .refl _)
        | (cases read; try exact .refl _)

end Primitive

/-! ## Bounds of repetitions -/

namespace PatternState

open Text

variable {flags : PatternFlags}

theorem ordinaryUpTo_of_readCount
    (visible : flags.ignoreSpace = false) {text rest : Text} {count : Nat}
    (read : readCount flags text = .ok (count, rest)) : text.OrdinaryUpTo rest := by
  unfold readCount at read
  simp only [PatternFlags.spanVisible_eq visible] at read
  split at read
  · cases read
  · split at read
    · cases read
    · cases read
      have blanks : ∀ delimiter ∈ delimiters, Unicode.isWhiteSpace delimiter = false :=
        List.all_iff_forall_prop.mp (by decide)
      have digits : ∀ delimiter ∈ delimiters, delimiter.isDigit = false :=
        List.all_iff_forall_prop.mp (by decide)
      exact ((ordinaryUpTo_dropWhile _ blanks _).trans (ordinaryUpTo_dropWhile _ digits _)).trans
        (ordinaryUpTo_dropWhile _ blanks _)

theorem ordinaryUpTo_of_readBounds
    (visible : flags.ignoreSpace = false) {text rest : Text} {least : Nat} {most : Option Nat}
    (read : readBounds flags text = .ok (least, most, rest)) : text.OrdinaryUpTo rest := by
  unfold readBounds at read
  simp only [PatternFlags.skipBlank_eq visible, bind, Except.bind] at read
  split at read
  · cases read
  · rename_i counted countEq
    have first := ordinaryUpTo_of_readCount visible countEq
    split at read
    · rename_i afterLeast
      rw [afterLeast] at first
      cases read
      exact first.trans (.cons (by decide) (.refl _))
    · rename_i afterComma afterLeast
      rw [afterLeast] at first
      refine first.trans (.cons (by decide) ?_)
      split at read
      · cases read
        exact .cons (by decide) (.refl _)
      · split at read
        · cases read
        · rename_i bounded boundEq
          have second := ordinaryUpTo_of_readCount visible boundEq
          split at read
          · rename_i afterMost
            rw [afterMost] at second
            split at read
            · cases read
              exact second.trans (.cons (by decide) (.refl _))
            · cases read
          · cases read
    · cases read

end PatternState

/-! ## Flag lists -/

theorem Text.not_mem_delimiters_of_isFlagLetter
    {letter : Char} (known : GroupKind.isFlagLetter letter = true) : letter ∉ delimiters := by
  have foreign : ∀ delimiter ∈ delimiters, GroupKind.isFlagLetter delimiter = false :=
    List.all_iff_forall_prop.mp (by decide)
  exact not_mem_delimiters_of_accepted foreign known

/-- Whether a body starts with flag letters that turn on the flag for blanks. -/
def Text.startsHiding (body : Text) : Bool :=
  match body with
  | '?' :: rest => (rest.takeWhile GroupKind.isFlagLetter).takeWhile (· ≠ '-') |>.contains 'x'
  | _ => false

theorem Text.takeWhile_flagLetters
    {letters after : Text} {ending : Char}
    (known : ∀ letter ∈ letters, GroupKind.isFlagLetter letter = true)
    (ends : ending = ')' ∨ ending = ':') :
    (letters ++ ending :: after).takeWhile GroupKind.isFlagLetter = letters := by
  have stops : GroupKind.isFlagLetter ending = false := by
    rcases ends with rfl | rfl <;> decide
  rw [List.takeWhile_append_of_pos known, List.takeWhile_cons_of_neg (by simp [stops]),
    List.append_nil]

theorem Text.not_mem_of_startsHiding
    {letters after : Text} {ending : Char}
    (known : ∀ letter ∈ letters, GroupKind.isFlagLetter letter = true)
    (ends : ending = ')' ∨ ending = ':')
    (shows : startsHiding ('?' :: (letters ++ ending :: after)) = false) :
    'x' ∉ letters.takeWhile (· ≠ '-') := by
  rw [startsHiding, takeWhile_flagLetters known ends] at shows
  simpa using shows

namespace PatternFlags

/-- What a list of flag letters does, when some characters were seen before it: blanks
stay visible if the letter for them does not occur before a hyphen. -/
structure AppliesLetters (flags : PatternFlags) (seen letters : List Char)
    (changed : PatternFlags) : Prop where
  known : ∀ letter ∈ letters, GroupKind.isFlagLetter letter = true
  stays : ('-' ∈ seen ∨ 'x' ∉ letters.takeWhile (· ≠ '-')) → flags.ignoreSpace = false →
    changed.ignoreSpace = false

theorem isFlagLetter_of_set?
    {flags changed : PatternFlags} {letter : Char} {on : Bool}
    (set : flags.set? letter on = some changed) :
    GroupKind.isFlagLetter letter = true ∧
      changed.ignoreSpace = if letter = 'x' then on else flags.ignoreSpace := by
  unfold set? at set
  split at set <;> cases set
  all_goals exact ⟨by decide, rfl⟩

/-- One step: a letter before others that are applied. -/
theorem AppliesLetters.cons
    {flags following changed : PatternFlags} {seen letters : List Char} {letter : Char}
    (notHyphen : letter ≠ '-') (set : flags.set? letter ('-' ∉ seen) = some following)
    (later : following.AppliesLetters (letter :: seen) letters changed) :
    flags.AppliesLetters seen (letter :: letters) changed := by
  obtain ⟨isLetter, followingEq⟩ := isFlagLetter_of_set? set
  refine ⟨List.forall_mem_cons.mpr ⟨isLetter, later.known⟩, fun off visible => ?_⟩
  rw [List.takeWhile_cons_of_pos (by simp [notHyphen]), List.mem_cons, not_or] at off
  apply later.stays
  · exact off.imp (List.mem_cons_of_mem _) (·.2)
  · rw [followingEq]
    by_cases blank : letter = 'x'
    · have hyphen := off.resolve_right fun others => others.1 blank.symm
      rw [if_pos blank, decide_eq_false_iff_not, not_not]
      exact hyphen
    · rw [if_neg blank, visible]

/-- A flag list is read up to the parenthesis or the colon that ends it. -/
theorem exists_letters_of_applyList
    {flags changed : PatternFlags} {seen : List Char} {text rest : Text} {isEmpty : Bool}
    (read : flags.applyList seen text = .ok (changed, isEmpty, rest)) :
    ∃ letters ending after, text = letters ++ rest ∧ rest = ending :: after ∧
      (ending = ')' ∨ ending = ':') ∧ flags.AppliesLetters seen letters changed ∧
      (isEmpty = false → seen ≠ [] ∨ letters ≠ []) := by
  induction text generalizing flags seen with
  | nil => cases read
  | cons character text inductionHypothesis =>
      unfold applyList at read
      split at read
      · rename_i ends
        split at read
        · cases read
        · cases read
          refine ⟨[], character, text, rfl, rfl, ends, ⟨by simp, fun _ visible => visible⟩, ?_⟩
          intro nonempty
          exact .inl (List.isEmpty_eq_false_iff.mp nonempty)
      · split at read
        · cases read
        · split at read
          · rename_i hyphen
            obtain ⟨letters, ending, after, split, restEq, ends, applies, -⟩ :=
              inductionHypothesis read
            refine ⟨character :: letters, ending, after, by rw [split]; rfl, restEq, ends,
              ⟨?_, ?_⟩, fun _ => .inr (List.cons_ne_nil _ _)⟩
            · rw [hyphen]
              exact List.forall_mem_cons.mpr ⟨by decide, applies.known⟩
            · rw [hyphen] at applies
              exact fun _ => applies.stays (.inl List.mem_cons_self)
          · rename_i notHyphen
            split at read
            · rename_i following set
              obtain ⟨letters, ending, after, split, restEq, ends, applies, -⟩ :=
                inductionHypothesis read
              exact ⟨character :: letters, ending, after, by rw [split]; rfl, restEq, ends,
                applies.cons notHyphen set, fun _ => .inr (List.cons_ne_nil _ _)⟩
            · cases read

end PatternFlags

end NamedCapture
