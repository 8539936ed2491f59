import Mathlib.Data.Bool.AllAny
import Mathlib.Logic.Relation
import NamedCapture.Proofs.Regularity

/-!
Contract: the pieces of a pattern, as the documentation of the dialects has them, and
the derivation behind whatever goes through a pattern piece by piece.

A piece is an item, the opening of a group, a list of flags, a comment, or a closing
parenthesis. Groups that start with one of a few marks take no number, nor do flags and
comments; every other group takes the next one. Nothing can be repeated before it is
there, so no question mark follows a name. Of an escape only the backslash and the next
character are one item: the braces behind `\p` or `\x` are items of their own.

A reader may take several pieces at once and keep what it likes of them. Of its state
only the number of open groups, the number of groups numbered so far and the text that
follows count here.

Owns:
- what may follow the parenthesis of a group, and which groups take a number;
- the steps of a cursor over the pieces of a pattern;
- the derivation behind a run that closes every group.

Does not own: the readers, or what else they ask of a pattern.
-/

namespace NamedCapture

/-! ## Openings -/

theorem Text.dropWhile_append_of_not_mem
    {front : Text} {stop : Char} (absent : stop ∉ front) (rest : Text) :
    (front ++ stop :: rest).dropWhile (· ≠ stop) = stop :: rest := by
  rw [List.dropWhile_append_of_pos]
  · exact List.dropWhile_cons_of_neg (by simp)
  · intro character member
    exact decide_eq_true (fun same => absent (same ▸ member))

/-- The mark in front of a name does not end it, so an end after mark and name is the
first one. -/
theorem GroupKind.not_mem_nameOpening
    {mark name : Text} (known : mark ∈ nameOpenings) (noEnd : '>' ∉ name) :
    '>' ∉ mark ++ name := by
  have noEndInMark : ∀ mark ∈ nameOpenings, '>' ∉ mark := by decide
  rw [List.mem_append, not_or]
  exact ⟨noEndInMark mark known, noEnd⟩

/-- An annotation ends at the first angle bracket of a text. -/
theorem GroupKind.IsLabel.rest_eq_of_append_eq
    {label name front rest remaining : Text} (written : IsLabel label name)
    (noEnd : '>' ∉ front) (split : front ++ '>' :: rest = label ++ remaining) :
    remaining = rest := by
  obtain ⟨mark, known, rfl, -, letters⟩ := written
  have noEndBefore : '>' ∉ mark ++ name :=
    not_mem_nameOpening known fun member => by cases letters _ member
  have same := congrArg (List.dropWhile (· ≠ '>')) split
  rw [List.append_assoc, List.singleton_append, Text.dropWhile_append_of_not_mem noEnd,
    Text.dropWhile_append_of_not_mem noEndBefore] at same
  exact (List.cons.inj same).2.symm

theorem Text.takesNumber_of_flags
    {letters : Text} {ending : Char} (nonempty : letters ≠ [])
    (known : ∀ letter ∈ letters, GroupKind.isFlagLetter letter = true)
    (ends : ending = ')' ∨ ending = ':') (rest : Text) :
    takesNumber ('?' :: (letters ++ ending :: rest)) = false := by
  have listed : (flagList? ('?' :: (letters ++ ending :: rest))).isNone = false := by
    simp only [flagList?, takeWhile_flagLetters known ends, if_neg nonempty, List.drop_left]
    rcases ends with rfl | rfl <;> rfl
  rw [takesNumber, listed, Bool.and_false]

/-- A body without a mark is that of a plain capture. -/
theorem Text.CapturesPlainly.of_head
    {body : Text} (noMark : body.head? ≠ some '?') : body.CapturesPlainly := by
  refine ⟨GroupKind.ofBody_eq_capturing noMark, ?_⟩
  cases body with
  | nil => rfl
  | cons first body =>
      rw [List.head?_cons, ne_eq, Option.some.injEq] at noMark
      simp [startsComment, List.isPrefixOf, Ne.symm noMark]

namespace GroupCursor

/-- The characters that start no single item of their own. -/
def delimiters : List Char :=
  ['\\', '[', '(', ')']

/-- The characters that do not stand in a name. The first one ends it, and with one of
the next two in front its group would be a lookbehind. -/
def nameBreaks : List Char :=
  '>' :: '=' :: '!' :: delimiters

theorem mem_delimiters {character : Char} (special : character ∈ delimiters) :
    character ∈ Text.delimiters := by
  have among : ∀ character ∈ delimiters, character ∈ Text.delimiters :=
    List.all_iff_forall_prop.mp (by decide)
  exact among character special

theorem plainItem_of_ordinary
    {character : Char} (ordinary : character ∉ delimiters) (rest : Text) :
    PlainItem (character :: rest) rest := by
  simp only [delimiters, List.mem_cons, List.not_mem_nil, or_false, not_or] at ordinary
  obtain ⟨notEscape, notBracket, notOpen, notClose⟩ := ordinary
  exact .character rest notEscape notBracket notOpen notClose

end GroupCursor

/-- What follows the parenthesis of a group, whether the group takes a number, and
where the mark or the name ends. -/
inductive GroupOpening : Text → Bool → Text → Prop where
  | plain {text : Text} (noMark : text.head? ≠ some '?') : GroupOpening text true text
  | named {mark name rest : Text} (known : mark ∈ GroupKind.nameOpenings)
      (nonempty : name ≠ []) (letters : ∀ character ∈ name, character ∉ GroupCursor.nameBreaks)
      (noMark : rest.head? ≠ some '?') : GroupOpening (mark ++ name ++ '>' :: rest) true rest
  | unnumbered {mark : Text} (known : mark ∈ Text.unnumberedOpenings) (rest : Text) :
      GroupOpening (mark ++ rest) false rest
  | flags {letters : Text} (nonempty : letters ≠ [])
      (known : ∀ letter ∈ letters, GroupKind.isFlagLetter letter = true) (rest : Text) :
      GroupOpening ('?' :: (letters ++ ':' :: rest)) false rest

namespace GroupOpening

open GroupCursor

variable {text inside : Text} {takes : Bool}

/-- A mark or a name has no characters that are special to the grammar of groups. -/
theorem exists_head (opens : GroupOpening text takes inside) :
    ∃ head, text = head ++ inside ∧ ∀ character ∈ head, character ∉ delimiters := by
  cases opens with
  | plain => exact ⟨[], rfl, by simp⟩
  | @named mark name _ known nonempty letters noMark =>
      have ordinary : ∀ mark ∈ GroupKind.nameOpenings, mark.all (· ∉ delimiters) = true := by
        decide
      refine ⟨mark ++ name ++ ['>'], by simp, fun character member special => ?_⟩
      rw [List.mem_append, List.mem_append, List.mem_singleton] at member
      rcases member with (inMark | inName) | rfl
      · exact List.all_iff_forall_prop.mp (ordinary mark known) character inMark special
      · exact letters character inName (by simp [nameBreaks, special])
      · exact absurd special (by decide)
  | @unnumbered mark known _ =>
      have ordinary : ∀ mark ∈ Text.unnumberedOpenings, mark.all (· ∉ delimiters) = true := by
        decide
      exact ⟨mark, rfl, List.all_iff_forall_prop.mp (ordinary mark known)⟩
  | @flags letters nonempty known _ =>
      refine ⟨'?' :: letters ++ [':'], by simp, fun character member special => ?_⟩
      rw [List.mem_append, List.mem_cons, List.mem_singleton] at member
      rcases member with (rfl | letter) | rfl
      · exact absurd special (by decide)
      · exact Text.not_mem_delimiters_of_isFlagLetter (known character letter)
          (mem_delimiters special)
      · exact absurd special (by decide)

/-- The documented marks are those that the classification knows. -/
theorem takesNumber_eq (opens : GroupOpening text takes inside) : text.takesNumber = takes := by
  cases opens with
  | plain noMark =>
      exact Text.takesNumber_of_ofBody_eq_capturing (GroupKind.ofBody_eq_capturing noMark)
  | @named mark name _ known nonempty letters noMark =>
      have notHead {character : Char} (special : character ∈ nameBreaks) :
          name.head? ≠ some character :=
        fun starts => letters character (List.mem_of_mem_head? starts) special
      exact Text.takesNumber_of_nameOpening known nonempty (notHead (by decide))
        (notHead (by decide)) _
  | @unnumbered mark known _ =>
      have starts : Text.unnumberedOpenings.any (·.isPrefixOf (mark ++ inside)) = true :=
        List.any_eq_true.mpr ⟨mark, known, List.isPrefixOf_iff_prefix.mpr (List.prefix_append _ _)⟩
      rw [Text.takesNumber, starts]
      rfl
  | flags nonempty known => exact Text.takesNumber_of_flags nonempty known (.inr rfl) inside

/-- A group that takes a number still does without its name, if the analysis knows the
name, and has no other one. -/
theorem capturesPlainly
    (opens : GroupOpening text true inside) (noComment : text.startsComment = false) :
    Text.CapturesPlainly (text.drop (GroupKind.ofBody text).annotationLength) := by
  have takes := opens.takesNumber_eq
  rw [← Text.isCapturing_ofBody] at takes
  cases kindEq : GroupKind.ofBody text with
  | capturing => exact ⟨kindEq, noComment⟩
  | named label length =>
      cases opens with
      | plain noMark =>
          rw [GroupKind.ofBody_eq_capturing noMark] at kindEq
          cases kindEq
      | @named mark name _ known nonempty letters noMark =>
          -- The annotation ends at the first angle bracket, as the name does.
          have noEnd : '>' ∉ mark ++ name :=
            GroupKind.not_mem_nameOpening known fun member => letters _ member (by decide)
          obtain ⟨front, remaining, split, written, rfl⟩ :=
            GroupKind.exists_label_of_named kindEq
          rw [split, GroupKind.annotationLength, List.drop_left,
            written.rest_eq_of_append_eq noEnd split]
          exact .of_head noMark
  | _ =>
      rw [kindEq] at takes
      cases takes

theorem opensRegularly
    (opens : GroupOpening text takes inside) (leaves : text.leavesBlanks = true)
    (noComment : text.startsComment = false) : text.OpensRegularly := by
  refine ⟨leaves, fun captures => ?_⟩
  rw [Text.isCapturing_ofBody, opens.takesNumber_eq] at captures
  subst captures
  exact opens.capturesPlainly noComment

end GroupOpening

/-! ## The cursor -/

/-- How many groups are open, how many numbers were given so far, and what text
follows. -/
structure GroupCursor where
  depth : Nat
  captures : Nat
  rest : Text
deriving DecidableEq, Repr

namespace GroupCursor

/-- One piece is passed, in a dialect that may have comments. -/
inductive Step (comments : Bool) : GroupCursor → GroupCursor → Prop where
  | item {text rest : Text} (depth captures : Nat) (read : PlainItem text rest) :
      Step comments ⟨depth, captures, text⟩ ⟨depth, captures, rest⟩
  | opening {text inside : Text} {takes : Bool} (depth captures : Nat)
      (opens : GroupOpening text takes inside) :
      Step comments ⟨depth, captures, '(' :: text⟩
        ⟨depth + 1, captures + takes.toNat, inside⟩
  | flags {letters : Text} (depth captures : Nat) (nonempty : letters ≠ [])
      (known : ∀ letter ∈ letters, GroupKind.isFlagLetter letter = true) (rest : Text) :
      Step comments ⟨depth, captures, '(' :: '?' :: (letters ++ ')' :: rest)⟩
        ⟨depth, captures, rest⟩
  | comment {inside : Text} (depth captures : Nat) (allowed : comments = true)
      (noClosing : ')' ∉ inside) (rest : Text) :
      Step comments ⟨depth, captures, '(' :: '?' :: '#' :: (inside ++ ')' :: rest)⟩
        ⟨depth, captures, rest⟩
  | closing (depth captures : Nat) (text : Text) :
      Step comments ⟨depth + 1, captures, ')' :: text⟩ ⟨depth, captures, text⟩

/-- At least one step is made. -/
def Advances (comments : Bool) : GroupCursor → GroupCursor → Prop :=
  Relation.TransGen (Step comments)

/-- Any number of steps is made. -/
def Reaches (comments : Bool) : GroupCursor → GroupCursor → Prop :=
  Relation.ReflTransGen (Step comments)

section Steps

variable {comments : Bool} {first second : GroupCursor}

/-- What is read without comments may be read where they are allowed. -/
theorem Step.allow (step : Step false first second) : Step comments first second := by
  cases step with
  | item depth captures read => exact .item depth captures read
  | opening depth captures opens => exact .opening depth captures opens
  | flags depth captures nonempty known rest => exact .flags depth captures nonempty known rest
  | comment _ _ allowed => cases allowed
  | closing depth captures text => exact .closing depth captures text

theorem Reaches.allow (reaches : Reaches false first second) : Reaches comments first second := by
  have allowed : Step false ≤ Step comments := fun _ _ step => step.allow
  exact Relation.ReflTransGen.mono allowed _ _ reaches

/-- What holds of the bodies of a text, and of no comment's, holds of those behind a
step. -/
theorem Step.eachBody
    {holds : Text → Prop} (step : Step comments first second)
    (noComment : ∀ body, holds body → comments = true → body.startsComment = false)
    (each : first.rest.EachBody holds) : second.rest.EachBody holds := by
  cases step with
  | item depth captures read => exact (Text.eachBody_iff_of_plainItem read).mp each
  | @opening text inside takes depth captures opens =>
      obtain ⟨head, rfl, ordinary⟩ := opens.exists_head
      have behind : Text.EachBody holds (head ++ inside) :=
        Text.EachBody.past_cons each (by decide) (by decide)
      exact behind.past (fun member => ordinary _ member (by decide))
        (fun member => ordinary _ member (by decide))
  | @flags letters depth captures nonempty known rest =>
      have split : '(' :: '?' :: (letters ++ ')' :: rest) =
          ('(' :: '?' :: (letters ++ [')'])) ++ rest := by simp
      have absent {character : Char} (special : character ∈ Text.delimiters) :
          character ∉ letters :=
        fun member => Text.not_mem_delimiters_of_isFlagLetter (known _ member) special
      change Text.EachBody holds ('(' :: '?' :: (letters ++ ')' :: rest)) at each
      rw [split] at each
      apply each.past
      · simpa using absent (by decide)
      · simpa using absent (by decide)
  | @comment inside depth captures allowed noClosing rest =>
      have commented : Text.startsComment ('?' :: '#' :: (inside ++ ')' :: rest)) = true := rfl
      rw [noComment _ (Text.EachBody.here each) allowed] at commented
      cases commented
  | closing depth captures text =>
      exact Text.EachBody.past_cons each (by decide) (by decide)

theorem Advances.eachBody
    {holds : Text → Prop} (advances : Advances false first second)
    (each : first.rest.EachBody holds) : second.rest.EachBody holds := by
  have noComment : ∀ body, holds body → false = true → Text.startsComment body = false :=
    fun _ _ allowed => by cases allowed
  induction advances with
  | single step => exact step.eachBody noComment each
  | tail _ step inductionHypothesis => exact step.eachBody noComment inductionHypothesis

theorem Step.length_lt (step : Step comments first second) :
    second.rest.length < first.rest.length := by
  cases step with
  | @item text rest depth captures read =>
      obtain ⟨taken, nonempty, split⟩ := read.exists_append
      have positive := List.length_pos_iff.mpr nonempty
      have length := congrArg List.length split
      rw [List.length_append] at length
      show rest.length < text.length
      omega
  | @opening text inside takes depth captures opens =>
      obtain ⟨head, rfl, -⟩ := opens.exists_head
      show inside.length < (head ++ inside).length + 1
      rw [List.length_append]
      omega
  | flags | comment =>
      simp only [List.length_cons, List.length_append]
      omega
  | closing depth captures text => exact Nat.lt_succ_self _

theorem Advances.length_lt (advances : Advances comments first second) :
    second.rest.length < first.rest.length := by
  induction advances with
  | single step => exact step.length_lt
  | tail _ step inductionHypothesis => exact Nat.lt_trans step.length_lt inductionHypothesis

/-- Ordinary characters behind a step are passed with it. -/
theorem Advances.past
    {depth captures : Nat} {taken rest : Text}
    (advances : Advances comments first ⟨depth, captures, taken ++ rest⟩)
    (ordinary : ∀ character ∈ taken, character ∉ delimiters) :
    Advances comments first ⟨depth, captures, rest⟩ := by
  induction taken with
  | nil => exact advances
  | cons character taken inductionHypothesis =>
      rw [List.forall_mem_cons] at ordinary
      apply inductionHypothesis
      · exact advances.tail (.item depth captures (plainItem_of_ordinary ordinary.1 _))
      · exact ordinary.2

theorem Advances.past_ordinary
    {depth captures : Nat} {text rest : Text}
    (advances : Advances comments first ⟨depth, captures, text⟩)
    (ordinary : text.OrdinaryUpTo rest) : Advances comments first ⟨depth, captures, rest⟩ := by
  obtain ⟨taken, rfl, ordinaryTaken⟩ := ordinary
  apply advances.past
  exact fun character member special => ordinaryTaken character member (mem_delimiters special)

/-- A list of flags, which are in force up to the end of a group or inside it alone. -/
theorem advances_flagList
    (depth captures : Nat) {letters after : Text} {ending : Char}
    (known : ∀ letter ∈ letters, GroupKind.isFlagLetter letter = true)
    (ends : ending = ')' ∨ ending = ':') :
    (ending = ':' →
      Advances comments ⟨depth, captures, '(' :: '?' :: (letters ++ ending :: after)⟩
        ⟨depth + 1, captures, after⟩) ∧
    (ending ≠ ':' → letters ≠ [] →
      Advances comments ⟨depth, captures, '(' :: '?' :: (letters ++ ending :: after)⟩
        ⟨depth, captures, after⟩) := by
  refine ⟨?_, fun noColon some => ?_⟩
  · rintro rfl
    by_cases none : letters = []
    · have mark : "?:".toList ∈ Text.unnumberedOpenings := by decide
      rw [none]
      exact .single (.opening depth captures (.unnumbered mark after))
    · exact .single (.opening depth captures (.flags none known after))
  · obtain rfl := ends.resolve_right noColon
    exact .single (.flags depth captures some known after)

end Steps

/-! ## Derivations -/

/-- The rest of so many groups around a group, and of that group itself, with so many
captures in them: all are closed, and what follows the last one is derived to the
end. -/
inductive Closes : Nat → Nat → Text → Prop where
  | innermost {text : Text} {outline : Outline} (derived : Derives text outline [])
      (regular : outline.IsRegular) : Closes 0 outline.captureCount text
  | around {depth count : Nat} {text middle : Text} {body : Outline}
      (derived : Derives text body (')' :: middle)) (regular : body.IsRegular)
      (later : Closes depth count middle) :
      Closes (depth + 1) (body.captureCount + count) text

theorem Closes.item
    {depth count : Nat} {text rest : Text} (closes : Closes depth count rest)
    (read : PlainItem text rest) : Closes depth count text := by
  obtain ⟨item, -, split⟩ := read.exists_append
  cases closes with
  | @innermost _ outline derived regular =>
      exact @Closes.innermost text (.plain item outline) (.plain split read derived) regular
  | @around _ _ _ _ body derived regular later =>
      exact @Closes.around _ _ text _ (.plain item body) (.plain split read derived) regular later

/-- A group in front, whose end was already among those to come. -/
theorem Closes.opening
    {depth count : Nat} {text : Text} (closes : Closes (depth + 1) count text)
    (regular : text.OpensRegularly) :
    Closes depth ((if (GroupKind.ofBody text).isCapturing then 1 else 0) + count)
      ('(' :: text) := by
  cases closes with
  | @around _ count _ middle body derived bodyRegular later =>
      have group := derived.opensRegularly_iff.mp regular
      rw [derived.ofBody_eq, ← Nat.add_assoc]
      cases later with
      | @innermost _ outline rest restRegular =>
          have longer : Derives ('(' :: text) (.group body outline) [] := .group derived rest
          rw [Nat.add_assoc]
          exact .innermost longer ⟨group, bodyRegular, restRegular⟩
      | @around _ count _ _ outline rest restRegular later =>
          have longer : Derives ('(' :: text) (.group body outline) _ := .group derived rest
          rw [← Nat.add_assoc, Nat.add_assoc _ body.captureCount]
          exact .around longer ⟨group, bodyRegular, restRegular⟩ later

theorem Closes.past
    {depth count : Nat} {taken rest : Text} (closes : Closes depth count rest)
    (ordinary : ∀ character ∈ taken, character ∉ delimiters) :
    Closes depth count (taken ++ rest) := by
  induction taken with
  | nil => exact closes
  | cons character taken inductionHypothesis =>
      rw [List.forall_mem_cons] at ordinary
      exact (inductionHypothesis ordinary.2).item (plainItem_of_ordinary ordinary.1 _)

/-- A group in front that is empty. -/
theorem Closes.closing
    {depth count : Nat} {text : Text} (closes : Closes depth count text) :
    Closes (depth + 1) count (')' :: text) := by
  have empty : Derives (')' :: text) .done (')' :: text) := .done _
  rw [← Nat.zero_add count]
  exact .around empty trivial closes

/-- A body leaves blanks visible and is not that of a comment. -/
structure IsFamiliar (body : Text) : Prop where
  leavesBlanks : body.leavesBlanks = true
  noComment : body.startsComment = false

section Derivations

variable {comments : Bool} {first last : GroupCursor} {count : Nat}

theorem Closes.of_step
    (step : Step comments first last) (familiar : first.rest.EachBody IsFamiliar)
    (closes : Closes last.depth count last.rest) :
    ∃ total, Closes first.depth total first.rest ∧
      first.captures + total = last.captures + count := by
  cases step with
  | item depth captures read => exact ⟨count, closes.item read, rfl⟩
  | @opening text inside takes depth captures opens =>
      obtain ⟨leaves, noComment⟩ := Text.EachBody.here familiar
      have regular := opens.opensRegularly leaves noComment
      have takesEq := opens.takesNumber_eq
      obtain ⟨head, rfl, ordinary⟩ := opens.exists_head
      refine ⟨_, (closes.past ordinary).opening regular, ?_⟩
      rw [Text.isCapturing_ofBody, takesEq, ← Nat.add_assoc]
      cases takes <;> rfl
  | @flags letters depth captures nonempty known rest =>
      obtain ⟨leaves, noComment⟩ := Text.EachBody.here familiar
      have notCapturing :
          (GroupKind.ofBody ('?' :: (letters ++ ')' :: rest))).isCapturing = false := by
        rw [Text.isCapturing_ofBody]
        exact Text.takesNumber_of_flags nonempty known (.inl rfl) rest
      have regular : Text.OpensRegularly ('?' :: (letters ++ ')' :: rest)) := by
        refine ⟨leaves, fun captures => ?_⟩
        rw [notCapturing] at captures
        cases captures
      have ordinary : ∀ character ∈ '?' :: letters, character ∉ delimiters := by
        rw [List.forall_mem_cons]
        exact ⟨by decide, fun letter member special =>
          Text.not_mem_delimiters_of_isFlagLetter (known letter member) (mem_delimiters special)⟩
      have inside : Closes (depth + 1) count ('?' :: (letters ++ ')' :: rest)) :=
        closes.closing.past ordinary
      have opened := inside.opening regular
      rw [notCapturing] at opened
      exact ⟨_, opened, by simp⟩
  | comment =>
      have noComment := (Text.EachBody.here familiar).noComment
      cases noComment
  | closing depth captures text => exact ⟨count, closes.closing, rfl⟩

theorem Closes.of_reaches
    (reaches : Reaches comments first last) (familiar : first.rest.EachBody IsFamiliar)
    (closes : Closes last.depth count last.rest) :
    ∃ total, Closes first.depth total first.rest ∧
      first.captures + total = last.captures + count := by
  induction reaches using Relation.ReflTransGen.head_induction_on with
  | refl => exact ⟨count, closes, rfl⟩
  | head step _ inductionHypothesis =>
      have behind := step.eachBody (fun _ known _ => known.noComment) familiar
      obtain ⟨later, laterCloses, laterEq⟩ := inductionHypothesis behind
      obtain ⟨total, firstCloses, firstEq⟩ := laterCloses.of_step step familiar
      exact ⟨total, firstCloses, firstEq.trans laterEq⟩

/-- A run from the start of a pattern to its end, with no group left open, has a
derivation behind it, if no group hides blanks and there are no comments. -/
theorem exists_derives_of_reaches
    {pattern : Text} {captures : Nat} (familiar : pattern.EachBody IsFamiliar)
    (reaches : Reaches comments ⟨0, 0, pattern⟩ ⟨0, captures, []⟩) :
    ∃ outline, Derives pattern outline [] ∧ outline.IsRegular ∧
      outline.captureCount = captures := by
  have empty : Derives [] .done [] := .done []
  have ended : Closes 0 0 [] := .innermost empty trivial
  obtain ⟨total, closes, totalEq⟩ := Closes.of_reaches reaches familiar ended
  simp only [Nat.zero_add, Nat.add_zero] at totalEq
  cases closes with
  | innermost derived regular => exact ⟨_, derived, regular, totalEq⟩

end Derivations

end GroupCursor

end NamedCapture
