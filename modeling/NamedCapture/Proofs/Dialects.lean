import Mathlib.Data.Bool.AllAny
import NamedCapture.Proofs.InlineFlags
import NamedCapture.Proofs.LinearReading
import NamedCapture.Proofs.LookaroundReading

/-!
Contract: what the documentation of an engine says of the groups in a pattern that it
accepts, and where the two engines here keep to it.

Of an engine nothing is assumed but this: what it accepts can be read to the end in
documented pieces, and it has a slot for every number given on the way. Both dialects
accept a few patterns that they read otherwise, so that is asked of the patterns of some
class only.

Owns:
- the assumption on an engine, and the derivation behind a pattern that it accepts;
- a class of patterns for each of the engines here, for which it holds.

Does not own: what the analysis makes of such a pattern.
-/

namespace NamedCapture

/-! ## Engines -/

/-- An engine accepts a pattern of some class only as the documentation of its dialect
has it, comments included if the dialect has any. While no group hides blanks, the
pattern can be read to its end in pieces, and every group is closed. The compiled form
has a slot for the whole match and one for each group that took a number.

Outside of such a class are, for the dialect without lookaround, a class with a range up
to a bracket, a name with a bracket, and a capture that is repeated no times and
dropped; for the one with lookaround a conditional, a backreference by name, and a
nested class that starts with its closing bracket. -/
structure Engine.FollowsDialect
    {World Compiled : Type} (engine : Engine World Compiled) (comments : Bool)
    (plain : CompileOptions → Text → Prop) : Prop where
  reads : ∀ {options pattern world compiled}, plain options pattern →
    pattern.keepsBlanks = true → (engine.compile pattern options world).1 = .ok compiled →
    ∃ count, GroupCursor.Reaches comments ⟨0, 0, pattern⟩ ⟨0, count, []⟩ ∧
      engine.captureSlots compiled = count + 1

/-- A pattern without comments that such an engine accepts is derived, with as many
captures as the engine numbers. -/
theorem Engine.FollowsDialect.exists_derives
    {World Compiled : Type} {engine : Engine World Compiled} {comments : Bool}
    {plain : CompileOptions → Text → Prop} (follows : engine.FollowsDialect comments plain)
    {options : CompileOptions} {pattern : Text} {world : World} {compiled : Compiled}
    (known : plain options pattern)
    (accepted : (engine.compile pattern options world).1 = .ok compiled)
    (familiar : pattern.EachBody GroupCursor.IsFamiliar) :
    ∃ outline, Derives pattern outline [] ∧ outline.IsRegular ∧
      engine.captureSlots compiled = outline.captureCount + 1 := by
  have keeps : pattern.keepsBlanks = true :=
    Text.keepsBlanks_iff.mpr fun offset body opens => (familiar offset body opens).leavesBlanks
  obtain ⟨count, reaches, slots⟩ := follows.reads known keeps accepted
  obtain ⟨outline, derived, regular, rfl⟩ :=
    GroupCursor.exists_derives_of_reaches familiar reaches
  exact ⟨outline, derived, regular, slots⟩

/-! ## The engine without lookaround -/

/-- Where the dialect without lookaround starts. -/
def PatternState.start (options : CompileOptions) (pattern : Text) : PatternState :=
  ⟨⟨.ofOptions options, none, [], []⟩, [], .ofOptions options, 0, [], pattern⟩

/-- The engine without lookaround reads a pattern as the grammar of groups has it: no
name has an opening bracket, no class has a range up to one, and no capture is
dropped. -/
structure LinearPattern.ReadsPlainly (options : CompileOptions) (pattern : Text) : Prop where
  visible : pattern.EachBody fun body => body.startsHiding = false
  plain : (PatternState.start options pattern).runsPlainly pattern.length = true
  counted : ∀ compiled last, LinearPattern.compile pattern options = .ok compiled →
    (PatternState.start options pattern).run pattern.length = .ok last →
      compiled.captureSlots = last.captures + 1

theorem LinearPattern.readsPlainly_of_counts
    {options : CompileOptions} {pattern : Text} {count : Nat}
    (visible : pattern.EachBody fun body => body.startsHiding = false)
    (plain : (PatternState.start options pattern).runsPlainly pattern.length = true)
    (slots : (LinearPattern.compile pattern options).map captureSlots = .ok (count + 1))
    (numbers : ((PatternState.start options pattern).run pattern.length).map (·.captures) =
      .ok count) : ReadsPlainly options pattern := by
  refine ⟨visible, plain, fun compiled last accepted ran => ?_⟩
  rw [accepted] at slots
  rw [ran] at numbers
  cases numbers
  exact Except.ok.inj slots

theorem PatternState.exists_run_of_read
    {options : CompileOptions} {pattern : Text} {expression : Expression}
    (read : Expression.read (.ofOptions options) pattern = .ok expression) :
    ∃ last, (PatternState.start options pattern).run pattern.length = .ok last ∧
      last.outer = [] := by
  unfold Expression.read at read
  split at read
  · cases read
  · rename_i last ran
    split at read
    · cases read
    · rename_i closed
      exact ⟨last, ran, by simpa using closed⟩

/-- An accepted pattern is read to its end, with all groups closed. -/
theorem LinearPattern.exists_run
    {options : CompileOptions} {pattern : Text} {compiled : LinearPattern}
    (accepted : LinearPattern.compile pattern options = .ok compiled) :
    ∃ last, (PatternState.start options pattern).run pattern.length = .ok last ∧
      last.outer = [] := by
  unfold LinearPattern.compile at accepted
  simp only at accepted
  split at accepted
  · cases accepted
  · rename_i read
    exact PatternState.exists_run_of_read read

theorem linearEngine_followsDialect :
    linearEngine.FollowsDialect false LinearPattern.ReadsPlainly where
  reads := by
    intro options pattern world compiled known _ accepted
    obtain ⟨last, ran, closed⟩ := LinearPattern.exists_run accepted
    have shows : (PatternState.start options pattern).ShowsBlanks :=
      ⟨rfl, rfl, by simp [PatternState.start]⟩
    obtain ⟨reaches, ended⟩ :=
      PatternState.reaches_of_run shows known.visible (Nat.le_refl _) known.plain ran
    rw [PatternState.cursor, PatternState.cursor, closed, ended] at reaches
    exact ⟨last.captures, reaches, known.counted compiled last accepted ran⟩

/-! ## The engine with lookaround -/

/-- Where the dialect with lookaround starts. -/
def Lookaround.ReadState.start (source : Text) : ReadState :=
  ⟨⟨.whole, [], []⟩, [], {}, 0, [], false, source⟩

/-- The engine with lookaround reads a pattern as the grammar of groups has it: there are
no comments, conditionals and backreferences by name, and no nested class starts with
its closing bracket. -/
structure LookaroundPattern.ReadsPlainly (options : CompileOptions) (pattern : Text) : Prop where
  visible : pattern.EachBody fun body => body.startsHiding = false
  known : pattern.EachBody fun body => body.isForeign = false
  plain : (Lookaround.ReadState.start (options.inlineFlags ++ pattern)).runsPlainly
    ((options.inlineFlags ++ pattern).length + 1) = true
  counted : ∀ compiled last, LookaroundPattern.compile pattern options = .ok compiled →
    (Lookaround.ReadState.start (options.inlineFlags ++ pattern)).run
      ((options.inlineFlags ++ pattern).length + 1) = .ok last →
      compiled.captureSlots = last.groups + 1

theorem LookaroundPattern.readsPlainly_of_counts
    {options : CompileOptions} {pattern : Text} {count : Nat}
    (visible : pattern.EachBody fun body => body.startsHiding = false)
    (known : pattern.EachBody fun body => body.isForeign = false)
    (plain : (Lookaround.ReadState.start (options.inlineFlags ++ pattern)).runsPlainly
      ((options.inlineFlags ++ pattern).length + 1) = true)
    (slots : (LookaroundPattern.compile pattern options).map captureSlots = .ok (count + 1))
    (numbers : ((Lookaround.ReadState.start (options.inlineFlags ++ pattern)).run
      ((options.inlineFlags ++ pattern).length + 1)).map (·.groups) = .ok count) :
    ReadsPlainly options pattern := by
  refine ⟨visible, known, plain, fun compiled last accepted ran => ?_⟩
  rw [accepted] at slots
  rw [ran] at numbers
  cases numbers
  exact Except.ok.inj slots

theorem Lookaround.ReadState.exists_run_of_read
    {source : Text} {node : Node} (read : Node.read source = .ok node) :
    ∃ last, (ReadState.start source).run (source.length + 1) = .ok last ∧
      last.outer = [] := by
  unfold Node.read at read
  split at read
  · cases read
  · rename_i last ran
    split at read
    · cases read
    · rename_i closed
      exact ⟨last, ran, by simpa using closed⟩

theorem LookaroundPattern.exists_run
    {options : CompileOptions} {pattern : Text} {compiled : LookaroundPattern}
    (accepted : LookaroundPattern.compile pattern options = .ok compiled) :
    ∃ last, (Lookaround.ReadState.start (options.inlineFlags ++ pattern)).run
        ((options.inlineFlags ++ pattern).length + 1) = .ok last ∧
      last.outer = [] := by
  unfold LookaroundPattern.compile at accepted
  cases read : Lookaround.Node.read (options.inlineFlags ++ pattern) with
  | error error =>
      simp only [read, Except.bind] at accepted
      cases accepted
  | ok node => exact Lookaround.ReadState.exists_run_of_read read

/-! ### Switches written in front -/

/-- A group of switches is none that the grammar of groups does not know, and does not
start to hide blanks. -/
theorem Lookaround.ReadState.admits_of_writtenFlags
    {flags : Text} (nonempty : flags ≠ [])
    (written : ∀ letter ∈ flags, letter ∈ CompileOptions.writtenFlags) (after : Text) :
    Admits ('?' :: (flags ++ ')' :: after)) := by
  constructor
  · have letters := CompileOptions.isFlagLetter_of_written written
    have closed : ')' = ')' ∨ ')' = ':' := .inl rfl
    have noBlanks : 'x' ∉ flags := fun member => absurd (written 'x' member) (by decide)
    have noStart : 'x' ∉ flags.takeWhile (· ≠ '-') :=
      fun member => noBlanks ((List.takeWhile_sublist _).subset member)
    rw [Text.startsHiding, Text.takeWhile_flagLetters letters closed]
    simpa using noStart
  · obtain ⟨first, flags, rfl⟩ := List.exists_cons_of_ne_nil nonempty
    have noMark : ∀ letter ∈ CompileOptions.writtenFlags,
        letter ≠ '#' ∧ letter ≠ '(' ∧ letter ≠ 'P' :=
      List.all_iff_forall_prop.mp (by decide)
    obtain ⟨noComment, noCondition, noName⟩ := noMark first (written first List.mem_cons_self)
    simp [Text.isForeign, Text.foreignMarks, List.isPrefixOf, Ne.symm noComment,
      Ne.symm noCondition, Ne.symm noName]

theorem Text.EachBody.of_ordinary
    {holds : Text → Prop} {taken rest : Text} (notEscape : '\\' ∉ taken)
    (notBracket : '[' ∉ taken) (notOpen : '(' ∉ taken) (later : EachBody holds rest) :
    EachBody holds (taken ++ rest) := by
  induction taken with
  | nil => exact later
  | cons character taken inductionHypothesis =>
      rw [List.mem_cons, not_or] at notEscape notBracket notOpen
      have behind := inductionHypothesis notEscape.2 notBracket.2 notOpen.2
      exact .cons (Ne.symm notEscape.1) (Ne.symm notBracket.1)
        (fun opens => absurd opens (Ne.symm notOpen.1)) behind

/-- The bodies of a pattern with switches in front are those of the pattern, and one
more. -/
theorem Lookaround.ReadState.eachBody_admits_inlineFlags
    (options : CompileOptions) {pattern : Text} (each : pattern.EachBody Admits) :
    Text.EachBody Admits (options.inlineFlags ++ pattern) := by
  rcases options.inlineFlags_eq with flagsEq | ⟨flags, nonempty, written, flagsEq⟩
  · rw [flagsEq]
    exact each
  have absent {character : Char} (foreign : character ∉ '?' :: ')' :: CompileOptions.writtenFlags) :
      character ∉ '?' :: flags ++ [')'] := by
    intro member
    rw [List.mem_cons, List.mem_cons, not_or, not_or] at foreign
    rw [List.mem_append, List.mem_cons, List.mem_singleton] at member
    rcases member with (mark | flag) | closing
    · exact foreign.1 mark
    · exact foreign.2.2 (written character flag)
    · exact foreign.2.1 closing
  have behind : Text.EachBody Admits ('?' :: flags ++ [')'] ++ pattern) :=
    .of_ordinary (absent (by decide)) (absent (by decide)) (absent (by decide)) each
  have admits : Admits ('?' :: flags ++ [')'] ++ pattern) := by
    rw [List.append_assoc]
    exact admits_of_writtenFlags nonempty written pattern
  rw [flagsEq]
  exact .cons (by decide) (by decide) (fun _ => admits) behind

section FlagsInFront

variable {letters rest : Text} (nonempty : letters ≠ [])
  (known : ∀ letter ∈ letters, GroupKind.isFlagLetter letter = true)

include known in
/-- Two lists of flags with an end that start a text are the same one. -/
theorem Text.eq_of_flags_append
    {others after : Text} {first second : Char}
    (knownOthers : ∀ letter ∈ others, GroupKind.isFlagLetter letter = true)
    (firstEnds : first = ')' ∨ first = ':') (secondEnds : second = ')' ∨ second = ':')
    (same : letters ++ first :: rest = others ++ second :: after) :
    first = second ∧ rest = after := by
  have lettersEq := congrArg (List.takeWhile GroupKind.isFlagLetter) same
  rw [takeWhile_flagLetters known firstEnds, takeWhile_flagLetters knownOthers secondEnds]
    at lettersEq
  rw [lettersEq] at same
  exact List.cons.inj (List.append_cancel_left same)

include nonempty known in
/-- Flags and their closing parenthesis open no group. -/
theorem GroupOpening.not_of_flags
    {inside : Text} {takes : Bool} :
    ¬ GroupOpening ('?' :: (letters ++ ')' :: rest)) takes inside := by
  intro opens
  have notNumbered := opens.takesNumber_eq
  rw [Text.takesNumber_of_flags nonempty known (.inl rfl)] at notNumbered
  generalize same : '?' :: (letters ++ ')' :: rest) = text at opens
  cases opens with
  | plain | named => cases notNumbered
  | unnumbered mark =>
      obtain ⟨first, letters, rfl⟩ := List.exists_cons_of_ne_nil nonempty
      have firstKnown := known first List.mem_cons_self
      simp only [Text.unnumberedOpenings, List.mem_cons, List.not_mem_nil, or_false] at mark
      rcases mark with rfl | rfl | rfl | rfl | rfl | rfl
      all_goals
        obtain ⟨-, behind⟩ := List.cons.inj same
        obtain ⟨rfl, -⟩ := List.cons.inj behind
        cases firstKnown
  | flags _ knownOthers =>
      obtain ⟨impossible, -⟩ := Text.eq_of_flags_append known knownOthers (.inl rfl) (.inr rfl)
        (List.cons.inj same).2
      cases impossible

include nonempty known in
/-- Flags in front of a pattern can only be read as such. -/
theorem GroupCursor.Reaches.behind_flags
    {comments : Bool} {count : Nat}
    (reaches : Reaches comments ⟨0, 0, '(' :: '?' :: (letters ++ ')' :: rest)⟩ ⟨0, count, []⟩) :
    Reaches comments ⟨0, 0, rest⟩ ⟨0, count, []⟩ := by
  rcases Relation.ReflTransGen.cases_head reaches with same | ⟨next, step, later⟩
  · cases same
  · generalize same : '(' :: '?' :: (letters ++ ')' :: rest) = text at step
    cases step with
    | item _ _ read =>
        rw [← same] at read
        cases read with
        | character _ _ _ notOpen => exact absurd rfl notOpen
    | opening _ _ opens =>
        rw [← (List.cons.inj same).2] at opens
        exact absurd opens (GroupOpening.not_of_flags nonempty known)
    | flags _ _ _ knownOthers after =>
        obtain ⟨-, rfl⟩ := Text.eq_of_flags_append known knownOthers (.inl rfl) (.inl rfl)
          (List.cons.inj (List.cons.inj same).2).2
        exact later
    | comment =>
        obtain ⟨first, letters, rfl⟩ := List.exists_cons_of_ne_nil nonempty
        have firstKnown := known first List.mem_cons_self
        obtain ⟨rfl, -⟩ := List.cons.inj (List.cons.inj (List.cons.inj same).2).2
        cases firstKnown

end FlagsInFront

/-- Switches in front of a pattern make no difference to the numbers of its groups. -/
theorem GroupCursor.Reaches.behind_inlineFlags
    {comments : Bool} {options : CompileOptions} {pattern : Text} {count : Nat}
    (reaches : Reaches comments ⟨0, 0, options.inlineFlags ++ pattern⟩ ⟨0, count, []⟩) :
    Reaches comments ⟨0, 0, pattern⟩ ⟨0, count, []⟩ := by
  rcases options.inlineFlags_eq with flagsEq | ⟨flags, nonempty, written, flagsEq⟩
  · rw [flagsEq] at reaches
    exact reaches
  · rw [flagsEq, List.cons_append, List.append_assoc, List.singleton_append] at reaches
    exact behind_flags nonempty (CompileOptions.isFlagLetter_of_written written) reaches

theorem lookaroundEngine_followsDialect :
    lookaroundEngine.FollowsDialect true LookaroundPattern.ReadsPlainly where
  reads := by
    intro options pattern world compiled known _ accepted
    obtain ⟨last, ran, closed⟩ := LookaroundPattern.exists_run accepted
    have each : pattern.EachBody Lookaround.ReadState.Admits := fun offset body opens =>
      ⟨known.visible offset body opens, known.known offset body opens⟩
    have calm : (Lookaround.ReadState.start (options.inlineFlags ++ pattern)).IsCalm :=
      ⟨rfl, rfl, by simp [Lookaround.ReadState.start]⟩
    obtain ⟨reaches, ended⟩ := Lookaround.ReadState.reaches_of_run calm
      (Lookaround.ReadState.eachBody_admits_inlineFlags options each) (Nat.le_succ _)
      known.plain ran
    rw [Lookaround.ReadState.cursor, Lookaround.ReadState.cursor, closed, ended] at reaches
    exact ⟨last.groups, GroupCursor.Reaches.behind_inlineFlags reaches.allow,
      known.counted compiled last accepted ran⟩

end NamedCapture
