import Mathlib.Data.Bool.AllAny
import NamedCapture.Lookaround.Reading.Pattern
import NamedCapture.Proofs.ClassReading
import NamedCapture.Proofs.GroupCursor

/-!
Contract: how much of a text the dialect with lookaround takes for one piece of a
pattern, while blanks are visible and no comment is met.

Comments are skipped between the parts of a pattern, of a repetition and of a flag
list. And a class nested in another one may start with its closing bracket, which is a
member for the grammar of groups and closes the nested class for this dialect.

Owns:
- what is taken for an escape, for a repetition, for a flag list, and for a class.

Does not own: groups, or what a piece means.
-/

namespace NamedCapture

/-! ## Invisible text -/

/-- What the bodies of comments, conditionals and backreferences by name start with. -/
def Text.foreignMarks : List Text :=
  ["?#".toList, "?(".toList, "?P=".toList]

def Text.isForeign (body : Text) : Bool :=
  foreignMarks.any (·.isPrefixOf body)

/-- No comment comes next, nor behind ordinary characters. -/
def Text.MeetsNoComment (text : Text) : Prop :=
  ∀ later, text.OrdinaryUpTo later → "(?#".toList.isPrefixOf later = false

theorem Text.MeetsNoComment.past
    {text later : Text} (calm : text.MeetsNoComment) (ordinary : text.OrdinaryUpTo later) :
    later.MeetsNoComment :=
  fun further behind => calm further (ordinary.trans behind)

theorem Text.EachBody.meetsNoComment
    {text : Text} (each : text.EachBody fun body => body.isForeign = false) :
    text.MeetsNoComment := by
  intro later ordinary
  by_contra comment
  rw [Bool.not_eq_false, List.isPrefixOf_iff_prefix] at comment
  obtain ⟨body, rfl⟩ := comment
  have known : Text.isForeign ('?' :: '#' :: body) = false := (each.past_ordinary ordinary).here
  simp [isForeign, foreignMarks] at known

namespace Lookaround

variable {flags : Flags}

theorem Flags.skip_eq
    (visible : flags.ignoreSpace = false) {text : Text}
    (noComment : "(?#".toList.isPrefixOf text = false) : flags.skip text = .ok text := by
  unfold skip skipInvisible
  rw [visible]
  split
  case h_4 => rfl
  case h_8 => simp at noComment
  case h_9 => rfl
  all_goals contradiction

/-- Nothing is skipped where no comment is met. -/
theorem Flags.skip_of_meetsNoComment
    (visible : flags.ignoreSpace = false) {text : Text} (calm : text.MeetsNoComment) :
    flags.skip text = .ok text :=
  skip_eq visible (calm text (.refl text))

/-! ## Escapes -/

theorem not_isDigit_of_delimiter :
    ∀ delimiter ∈ Text.delimiters, delimiter.isDigit = false :=
  List.all_iff_forall_prop.mp (by decide)

theorem ordinaryUpTo_of_readCount?
    {text rest : Text} {count : Nat} (read : readCount? text = some (count, rest)) :
    text.OrdinaryUpTo rest := by
  unfold readCount? at read
  simp only at read
  split at read
  · cases read
  · cases read
    exact Text.ordinaryUpTo_drop_takeWhile _ not_isDigit_of_delimiter text

theorem ordinaryUpTo_of_readCount?_cons
    {character : Char} {text rest : Text} {count : Nat} (digit : character.isDigit = true)
    (read : readCount? (character :: text) = some (count, rest)) : text.OrdinaryUpTo rest := by
  unfold readCount? at read
  simp only [List.takeWhile_cons_of_pos digit, List.length_cons, List.drop_succ_cons] at read
  split at read
  · cases read
  · cases read
    exact Text.ordinaryUpTo_drop_takeWhile _ not_isDigit_of_delimiter text

theorem not_isNameCharacter_of_delimiter :
    ∀ delimiter ∈ Text.delimiters, isNameCharacter delimiter = false :=
  List.all_iff_forall_prop.mp (by decide)

/-- A name and the character that closes it. -/
theorem exists_name_of_readName?
    {relative : Bool} {closing : Char} {text name rest : Text}
    (read : readName? relative closing text = some (name, rest)) :
    text = name ++ closing :: rest ∧ name ≠ [] ∧ ∀ character ∈ name,
      isNameCharacter character = true ∨ (relative = true ∧ character = '-') := by
  unfold readName? at read
  cases text with
  | nil => cases read
  | cons first text =>
      by_cases hyphen : first = '-'
      · subst hyphen
        cases relative with
        | false => cases read
        | true =>
            simp only [if_true] at read
            split at read
            · cases read
            · rename_i dropped _
              split at read
              · rename_i closes
                cases read
                have starts : '-' :: text.takeWhile isNameCharacter <+: '-' :: text :=
                  List.cons_prefix_cons.mpr ⟨rfl, List.takeWhile_prefix _⟩
                refine ⟨?_, List.cons_ne_nil _ _, List.forall_mem_cons.mpr ⟨.inr ⟨rfl, rfl⟩, ?_⟩⟩
                · rw [← closes]
                  exact Text.eq_append_of_drop starts dropped
                · exact fun character member =>
                    .inl (List.all_eq_true.mp List.all_takeWhile character member)
              · cases read
            · cases read
      · simp [hyphen] at read
        split at read
        · cases read
        · rename_i dropped nonempty
          split at read
          · rename_i closes
            cases read
            refine ⟨?_, nonempty, ?_⟩
            · rw [← closes]
              exact Text.eq_append_of_drop (List.takeWhile_prefix _) dropped
            · exact fun character member =>
                .inl (List.all_eq_true.mp List.all_takeWhile character member)
          · cases read
        · cases read

theorem ordinaryUpTo_of_readName?
    {relative : Bool} {closing : Char} {text name rest : Text}
    (ordinary : closing ∉ Text.delimiters)
    (read : readName? relative closing text = some (name, rest)) : text.OrdinaryUpTo rest := by
  obtain ⟨split, -, letters⟩ := exists_name_of_readName? read
  refine ⟨name ++ [closing], by rw [split, List.append_assoc]; rfl, ?_⟩
  intro character member
  rw [List.mem_append, List.mem_singleton] at member
  rcases member with inName | rfl
  · rcases letters character inName with letter | ⟨-, rfl⟩
    · exact Text.not_mem_delimiters_of_accepted not_isNameCharacter_of_delimiter letter
    · decide
  · exact ordinary

theorem ordinaryUpTo_of_readCodePoint
    {count : Nat} {text rest : Text} {character : Char}
    (read : readCodePoint count text = .ok (character, rest)) : text.OrdinaryUpTo rest := by
  unfold readCodePoint at read
  simp only at read
  split at read
  · rename_i digits
    split at read
    · cases read
      refine ⟨text.take count, (List.take_append_drop count text).symm, fun digit member => ?_⟩
      exact Text.not_mem_delimiters_of_accepted Primitive.hexDigit?_isSome_of_delimiter
        (List.all_eq_true.mp digits.2 digit member)
    · cases read
  · split at read
    · rename_i inside notBare
      have digits := Text.ordinaryUpTo_drop_takeWhile
        (fun digit => (Primitive.hexDigit? digit).isSome)
        Primitive.hexDigit?_isSome_of_delimiter inside
      split at read
      · rename_i after found dropped
        rw [dropped] at digits
        split at read
        · split at read
          · cases read
            exact .cons (by decide) (digits.trans (.cons (by decide) (.refl _)))
          · cases read
        · cases read
      · cases read
    · cases read

/-- The escapes that mean the same in a class and outside. -/
theorem ordinaryUpTo_of_readEscape_inClass
    {character : Char} {after rest : Text} {escape : Escape}
    (noDigit : ¬ character.isDigit = true)
    (read : readEscape flags true (character :: after) = .ok (escape, rest)) :
    Text.OrdinaryUpTo after rest := by
  unfold readEscape at read
  simp only [if_neg noDigit, if_true] at read
  split at read
  case h_9 | h_10 | h_11 =>
    split at read
    · cases read
    · rename_i codePoint
      cases read
      exact ordinaryUpTo_of_readCodePoint codePoint
  case h_20 =>
    split at read
    · cases read
    · cases read
      exact .refl _
  all_goals
    cases read
    exact .refl _

/-- An escape takes one character, whatever it is, and then ordinary ones. -/
theorem exists_of_readEscape
    {inClass : Bool} {text rest : Text} {escape : Escape}
    (read : readEscape flags inClass text = .ok (escape, rest)) :
    ∃ character after, text = character :: after ∧ Text.OrdinaryUpTo after rest := by
  cases text with
  | nil => cases read
  | cons character after =>
      refine ⟨character, after, rfl, ?_⟩
      by_cases digit : character.isDigit = true
      · unfold readEscape at read
        simp only [if_pos digit] at read
        split at read
        · rename_i counted
          cases read
          exact ordinaryUpTo_of_readCount?_cons digit counted
        · cases read
      · cases inClass with
        | true => exact ordinaryUpTo_of_readEscape_inClass digit read
        | false =>
            unfold readEscape at read
            simp only [if_neg digit, Bool.false_eq_true, if_false] at read
            split at read
            case h_1 =>
              split at read
              · rename_i named
                cases read
                split at named
                · exact .cons (by decide) (ordinaryUpTo_of_readName? (by decide) named)
                · exact .cons (by decide) (ordinaryUpTo_of_readName? (by decide) named)
                · cases named
              · cases read
            case h_4 | h_5 =>
              split at read
              · cases read
              · cases read
                exact .refl _
            case h_10 =>
              have inClass : readEscape flags true (character :: after) = .ok (escape, rest) := by
                unfold readEscape
                simp only [if_neg digit, if_true]
                exact read
              exact ordinaryUpTo_of_readEscape_inClass digit inClass
            all_goals
              cases read
              exact .refl _

/-! ## Repetitions -/

/-- What is shown of a text where no comment is met is the text. -/
theorem eq_of_toOption_skip
    (visible : flags.ignoreSpace = false) {text shown : Text} (calm : text.MeetsNoComment)
    (shownEq : (flags.skip text).toOption = some shown) : shown = text := by
  rw [Flags.skip_of_meetsNoComment visible calm] at shownEq
  cases shownEq
  rfl

theorem ordinaryUpTo_of_readBounds?
    (visible : flags.ignoreSpace = false) {text rest : Text} {least : Nat} {most : Option Nat}
    (calm : text.MeetsNoComment) (read : readBounds? flags text = some (least, most, rest)) :
    text.OrdinaryUpTo rest := by
  unfold readBounds? at read
  simp only [Option.bind_eq_bind, Option.bind_eq_some_iff] at read
  obtain ⟨shown, shownEq, read⟩ := read
  have same := eq_of_toOption_skip visible calm shownEq
  split at read
  all_goals
    simp only [Option.bind_eq_some_iff] at read
    obtain ⟨lower, lowerEq, behindLower, behindEq, read⟩ := read
    have first : text.OrdinaryUpTo lower.2 := by
      rw [← same]
      first
        | exact ordinaryUpTo_of_readCount? lowerEq
        | (cases lowerEq; exact .refl _)
    obtain rfl := eq_of_toOption_skip visible (calm.past first) behindEq
    split at read
    · rename_i closes
      cases read
      rw [closes] at first
      exact first.trans (.cons (by decide) (.refl _))
    · rename_i afterComma comma
      rw [comma] at first
      have second := first.trans (.cons (by decide) (.refl afterComma))
      simp only [Option.bind_eq_some_iff] at read
      obtain ⟨bound, boundEq, read⟩ := read
      obtain rfl := eq_of_toOption_skip visible (calm.past second) boundEq
      have finish {afterUpper behindUpper : Text} (third : bound.OrdinaryUpTo afterUpper)
          (upperEq : (flags.skip afterUpper).toOption = some behindUpper)
          (closes : behindUpper = '}' :: rest) : text.OrdinaryUpTo rest := by
        obtain rfl := eq_of_toOption_skip visible (calm.past (second.trans third)) upperEq
        rw [closes] at third
        exact (second.trans third).trans (.cons (by decide) (.refl _))
      cases counted : readCount? bound with
      | none =>
          rw [counted] at read
          obtain ⟨behindUpper, upperEq, read⟩ := read
          split at read
          · cases read
            exact finish (.refl bound) upperEq rfl
          · cases read
      | some upper =>
          rw [counted] at read
          obtain ⟨behindUpper, upperEq, read⟩ := read
          split at read
          · cases read
            exact finish (ordinaryUpTo_of_readCount? counted) upperEq rfl
          · cases read
    · cases read

/-- A repetition, or none, and the marks behind it. -/
theorem ordinaryUpTo_of_readRepetition
    (visible : flags.ignoreSpace = false) {text rest : Text} {node repeated : Node}
    (calm : text.MeetsNoComment) (read : readRepetition flags node text = .ok (repeated, rest)) :
    text.OrdinaryUpTo rest := by
  unfold readRepetition at read
  simp only [Flags.skip_of_meetsNoComment visible calm, bind, Except.bind] at read
  split at read
  · cases read
    exact .refl _
  · rename_i least most afterBounds bounds
    have first : text.OrdinaryUpTo afterBounds := by
      split at bounds
      case h_4 inside =>
        have brace : Text.OrdinaryUpTo ('{' :: inside) inside := .cons (by decide) (.refl _)
        exact brace.trans (ordinaryUpTo_of_readBounds? visible (calm.past brace) bounds)
      case h_5 => cases bounds
      all_goals
        cases bounds
        exact .cons (by decide) (.refl _)
    split at read
    · rw [Flags.skip_of_meetsNoComment visible (calm.past first)] at read
      simp only at read
      split at read
      · rename_i final
        cases read
        have marks : afterBounds.OrdinaryUpTo ('+' :: rest) := by
          split at final
          · exact .cons (by decide) (final ▸ .refl _)
          · exact final ▸ .refl _
        exact (first.trans marks).trans (.cons (by decide) (.refl _))
      · cases read
        apply first.trans
        split
        · exact .cons (by decide) (.refl _)
        · exact .refl _
    · cases read

/-! ## Flags -/

theorem Flags.isFlagLetter_of_set?
    {changed : Flags} {letter : Char} {on : Bool} (set : flags.set? letter on = some changed) :
    GroupKind.isFlagLetter letter = true ∧
      changed.ignoreSpace = if letter = 'x' then on else flags.ignoreSpace := by
  unfold set? at set
  split at set
  case h_6 =>
    split at set
    · cases set
      exact ⟨by decide, rfl⟩
    · cases set
  case h_7 => cases set
  all_goals
    cases set
    exact ⟨by decide, rfl⟩

theorem Flags.ignoreSpace_of_set?
    (visible : flags.ignoreSpace = false) {changed : Flags} {letter : Char} {on : Bool}
    (set : flags.set? letter on = some changed) (off : on = true → letter ≠ 'x') :
    changed.ignoreSpace = false := by
  rw [(isFlagLetter_of_set? set).2]
  by_cases blank : letter = 'x'
  · rw [if_pos blank, ← Bool.not_eq_true]
    exact fun isOn => off isOn blank
  · rw [if_neg blank, visible]

/-- A flag list that does not turn on the flag for blanks is read up to the parenthesis
or the colon that ends it. -/
theorem Flags.exists_letters_of_applyList
    {changed : Flags} {on : Bool} {size fuel : Nat} {text rest : Text}
    (visible : flags.ignoreSpace = false) (calm : text.MeetsNoComment)
    (shows : on = true → 'x' ∉ (text.takeWhile GroupKind.isFlagLetter).takeWhile (· ≠ '-'))
    (read : flags.applyList on size fuel text = .ok (changed, rest)) :
    ∃ letters ending after, text = letters ++ rest ∧ rest = ending :: after ∧
      (ending = ')' ∨ ending = ':') ∧
      (∀ letter ∈ letters, GroupKind.isFlagLetter letter = true) ∧
      changed.ignoreSpace = false ∧ (ending = ')' → size ≠ rest.length) := by
  induction fuel generalizing flags on text with
  | zero => cases read
  | succ fuel inductionHypothesis =>
      unfold applyList at read
      rw [skip_of_meetsNoComment visible calm] at read
      cases text with
      | nil => cases read
      | cons character text =>
          simp only at read
          split at read
          · rename_i ends
            split at read
            · cases read
            · rename_i notEmpty
              cases read
              refine ⟨[], character, text, rfl, rfl, ends, by simp, visible, ?_⟩
              intro closes same
              apply notEmpty
              refine .inl ⟨?_, closes⟩
              rw [same, List.length_cons, Nat.sub_self]
          · split at read
            · rename_i hyphen
              split at read
              · have ordinary : Text.OrdinaryUpTo (character :: text) text := by
                  rw [hyphen]
                  exact .cons (by decide) (.refl _)
                obtain ⟨letters, ending, after, split, restEq, ends, known, shown, nonempty⟩ :=
                  inductionHypothesis visible (calm.past ordinary) (fun off => by cases off) read
                refine ⟨character :: letters, ending, after, by rw [split]; rfl, restEq, ends,
                  List.forall_mem_cons.mpr ⟨?_, known⟩, shown, nonempty⟩
                rw [hyphen]
                decide
              · cases read
            · rename_i notHyphen
              split at read
              · rename_i following set
                have isLetter := (isFlagLetter_of_set? set).1
                have ordinary : Text.OrdinaryUpTo (character :: text) text :=
                  .cons (Text.not_mem_delimiters_of_isFlagLetter isLetter) (.refl _)
                rw [List.takeWhile_cons_of_pos isLetter,
                  List.takeWhile_cons_of_pos (by simpa using notHyphen), List.mem_cons] at shows
                have followingVisible : following.ignoreSpace = false :=
                  ignoreSpace_of_set? visible set fun isOn blank => shows isOn (.inl blank.symm)
                obtain ⟨letters, ending, after, split, restEq, ends, known, shown, nonempty⟩ :=
                  inductionHypothesis followingVisible (calm.past ordinary)
                    (fun off member => shows off (.inr member)) read
                exact ⟨character :: letters, ending, after, by rw [split]; rfl, restEq, ends,
                  List.forall_mem_cons.mpr ⟨isLetter, known⟩, shown, nonempty⟩
              · cases read

/-! ## Classes -/

/-- Whether no class nested in the rest of a class, with so many brackets open, starts
with its closing bracket. -/
def nestsPlainly (flags : Flags) : Nat → Nat → Text → Bool
  | 0, _, _ => true
  | _ + 1, _, [] => true
  | count + 1, depth, '\\' :: rest =>
      match readEscape flags true rest with
      | .error _ => true
      | .ok (_, remaining) => nestsPlainly flags count depth remaining
  | count + 1, depth, '[' :: rest =>
      (Text.afterCaret rest).head? != some ']' && nestsPlainly flags count (depth + 1) rest
  | count + 1, depth, ']' :: rest => depth ≤ 1 || nestsPlainly flags count (depth - 1) rest
  | count + 1, depth, _ :: rest => nestsPlainly flags count depth rest

/-- A nested class that does not start with its closing bracket is read on from its
opening bracket. -/
theorem classTail_contents
    {text rest : Text} (read : ClassTail text rest)
    (plain : text.afterCaret.head? ≠ some ']') : ClassTail text.classContents rest := by
  have contents : text.classContents = text.afterCaret := by
    unfold Text.classContents Text.afterBracket
    split
    · rename_i starts
      rw [starts] at plain
      exact absurd rfl plain
    · rfl
  rw [contents]
  cases text with
  | nil => exact read
  | cons first text =>
      rw [Text.afterCaret_cons]
      by_cases caret : first = '^'
      · subst caret
        rw [if_pos rfl]
        cases read with
        | member _ _ _ later => exact later
      · rw [if_neg caret]
        exact read

/-- Text written in front leaves what is read as it is. -/
theorem exists_of_map_eq_ok
    {read : Except String (Text × Text)} {write : Text × Text → Text × Text}
    {written rest : Text} (mapped : read.map write = .ok (written, rest))
    (keeps : ∀ pair, (write pair).2 = pair.2) : ∃ inner, read = .ok (inner, rest) := by
  cases read with
  | error _ => cases mapped
  | ok pair =>
      have restEq : pair.2 = rest :=
        (keeps pair).symm.trans (congrArg Prod.snd (Except.ok.inj mapped))
      exact ⟨pair.1, by rw [← restEq]⟩

theorem classTails_of_readClassFrom
    {count depth : Nat} {text written rest : Text}
    (plain : nestsPlainly flags count (depth + 1) text = true)
    (read : readClassFrom flags count (depth + 1) text = .ok (written, rest)) :
    ClassTails depth text rest := by
  induction count generalizing depth text written with
  | zero => cases read
  | succ count inductionHypothesis =>
      unfold readClassFrom at read
      split at read
      case h_1 => cases read
      case h_2 => cases read
      case h_3 text same =>
        cases same
        unfold nestsPlainly at plain
        split at read
        · cases read
        · rename_i readEq
          obtain ⟨escaped, after, rfl, ordinary⟩ := exists_of_readEscape readEq
          simp only [readEq] at plain
          simp only at read
          split at read
          · cases read
          · obtain ⟨_, inner⟩ := exists_of_map_eq_ok read (fun _ => rfl)
            exact (inductionHypothesis plain inner).prepend fun _ later =>
              .escape escaped (.of_ordinaryUpTo ordinary later)
      case h_4 text same =>
        cases same
        rw [nestsPlainly, Bool.and_eq_true, bne_iff_ne] at plain
        obtain ⟨_, inner⟩ := exists_of_map_eq_ok read (fun _ => rfl)
        cases inductionHypothesis plain.2 inner with
        | around inner later =>
            exact later.prepend fun _ => .nested (classTail_contents inner plain.1)
      case h_5 text same =>
        cases same
        rw [nestsPlainly] at plain
        cases depth with
        | zero =>
            cases read
            exact .innermost (.close _)
        | succ depth =>
            have deep : ¬ depth + 1 + 1 ≤ 1 := by omega
            rw [if_neg deep, Nat.add_sub_cancel] at read
            rw [decide_eq_false deep, Bool.false_or, Nat.add_sub_cancel] at plain
            obtain ⟨_, inner⟩ := exists_of_map_eq_ok read (fun _ => rfl)
            exact .around (.close _) (inductionHypothesis plain inner)
      case h_6 character text notEscape notOpen notClose same =>
        cases same
        have plainLater : nestsPlainly flags count (depth + 1) text = true := by
          simpa [nestsPlainly, notEscape, notOpen, notClose] using plain
        obtain ⟨_, inner⟩ := exists_of_map_eq_ok read (fun _ => rfl)
        exact (inductionHypothesis plainLater inner).prepend fun _ =>
          .member notEscape notOpen notClose

/-- Whether no class nested in a class that starts with this text, after its opening
bracket, starts with its closing bracket. -/
def readsClassPlainly (flags : Flags) (text : Text) : Bool :=
  nestsPlainly flags (text.classContents.length + 1) 1 text.classContents

theorem exists_of_readClass
    {text written rest : Text} (read : readClass flags text = .ok (written, rest)) :
    ∃ inner, readClassFrom flags (text.classContents.length + 1) 1 text.classContents =
      .ok (inner, rest) := by
  unfold readClass at read
  cases text with
  | nil => exact exists_of_map_eq_ok read (fun _ => rfl)
  | cons first text =>
      rw [Text.classContents, Text.afterCaret_cons]
      by_cases caret : first = '^'
      · subst caret
        rw [if_pos rfl]
        cases text with
        | nil => exact exists_of_map_eq_ok read (fun _ => rfl)
        | cons second text =>
            rw [Text.afterBracket_cons]
            by_cases bracket : second = ']'
            · subst bracket
              exact exists_of_map_eq_ok read (fun _ => rfl)
            · simp [bracket] at read
              rw [if_neg bracket]
              exact exists_of_map_eq_ok read (fun _ => rfl)
      · rw [if_neg caret, Text.afterBracket_cons]
        simp [caret] at read
        by_cases bracket : first = ']'
        · subst bracket
          exact exists_of_map_eq_ok read (fun _ => rfl)
        · simp [bracket] at read
          rw [if_neg bracket]
          exact exists_of_map_eq_ok read (fun _ => rfl)

/-- A class is read up to where the grammar of groups says it ends. -/
theorem plainItem_of_readClass
    {text written rest : Text} (plain : readsClassPlainly flags text = true)
    (read : readClass flags text = .ok (written, rest)) : PlainItem ('[' :: text) rest := by
  obtain ⟨inner, contents⟩ := exists_of_readClass read
  cases classTails_of_readClassFrom plain contents with
  | innermost contents => exact .bracket contents

end Lookaround

end NamedCapture
