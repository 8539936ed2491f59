import Mathlib.Data.Bool.AllAny
import NamedCapture.Options
import NamedCapture.Proofs.Simplification

/-!
Contract: inline flags, as the grammar of groups reads them.

Owns:
- the derivation of a text without special characters;
- the outline of the inline flags that say the same as a set of compile switches.

Does not own: the patterns that inline flags are written before.
-/

namespace NamedCapture

/-! ## Ordinary characters -/

/-- Characters without a meaning to the grammar of groups are items, whatever comes
behind them. -/
theorem Derives.exists_of_ordinary
    {text : Text} (notEscape : '\\' ∉ text) (notBracket : '[' ∉ text)
    (notOpen : '(' ∉ text) (notClose : ')' ∉ text) :
    ∃ outline, outline.text = text ∧ outline.hasCapture = false ∧
      ∀ other, Derives (text ++ other) outline other := by
  induction text with
  | nil => exact ⟨.done, rfl, rfl, fun other => .done other⟩
  | cons character text inductionHypothesis =>
      rw [List.mem_cons, not_or] at notEscape notBracket notOpen notClose
      obtain ⟨outline, rfl, noCapture, derived⟩ :=
        inductionHypothesis notEscape.2 notBracket.2 notOpen.2 notClose.2
      refine ⟨.plain [character] outline, rfl, noCapture, fun other => ?_⟩
      exact .plain rfl (.character _ (Ne.symm notEscape.1) (Ne.symm notBracket.1)
        (Ne.symm notOpen.1) (Ne.symm notClose.1)) (derived other)

/-! ## Inline flags -/

namespace CompileOptions

/-- The letters of all switches, and the hyphen before the one that is turned off. -/
def writtenFlags : List Char :=
  ['i', 'm', 's', 'U', 'R', '-', 'u']

theorem isFlagLetter_of_written
    {flags : Text} (written : ∀ letter ∈ flags, letter ∈ writtenFlags) :
    ∀ letter ∈ flags, GroupKind.isFlagLetter letter = true := by
  have known : ∀ letter ∈ writtenFlags, GroupKind.isFlagLetter letter = true :=
    List.all_iff_forall_prop.mp (by decide)
  exact fun letter member => known letter (written letter member)

theorem enabledFlags_subset (options : CompileOptions) :
    options.enabledFlags ⊆ ['i', 'm', 's', 'U', 'R'] :=
  (List.filter_sublist.map Prod.snd).subset

/-- Inline flags are one group of flag letters, or nothing. -/
theorem inlineFlags_eq (options : CompileOptions) :
    options.inlineFlags = [] ∨
      ∃ flags : Text, flags ≠ [] ∧ (∀ letter ∈ flags, letter ∈ writtenFlags) ∧
        options.inlineFlags = '(' :: (('?' :: flags) ++ [')']) := by
  have letters : ∀ letter ∈ options.enabledFlags ++ (if options.unicode then [] else ['-', 'u']),
      letter ∈ writtenFlags := by
    intro letter member
    rw [List.mem_append] at member
    rcases member with enabled | disabled
    · have written : ['i', 'm', 's', 'U', 'R'] ⊆ writtenFlags := by decide
      exact written (options.enabledFlags_subset enabled)
    · have written : ['-', 'u'] ⊆ writtenFlags := by decide
      split at disabled
      · cases disabled
      · exact written disabled
  unfold inlineFlags
  generalize options.enabledFlags ++ (if options.unicode then [] else ['-', 'u']) = flags at letters
  by_cases empty : flags = []
  · exact .inl (by simp [empty])
  · exact .inr ⟨flags, empty, letters, by simp [empty]⟩

/-- Inline flags are a group without a number, wherever they stand. -/
theorem exists_outline_inlineFlags (options : CompileOptions) :
    ∃ outline, outline.text = options.inlineFlags ∧ outline.isFlat = true ∧
      outline.definitions 0 0 = [] ∧ outline.simplified = outline ∧
      ∀ other, Derives (outline.text ++ other) outline other := by
  rcases options.inlineFlags_eq with flagsEq | ⟨flags, nonempty, written, flagsEq⟩
  · exact ⟨.done, flagsEq.symm, rfl, rfl, rfl, fun other => .done other⟩
  have letters := isFlagLetter_of_written written
  have absent {character : Char} (notLetter : GroupKind.isFlagLetter character = false)
      (notQuestion : character ≠ '?') : character ∉ '?' :: flags := by
    rw [List.mem_cons, not_or]
    exact ⟨notQuestion, GroupKind.not_mem_of_letters letters notLetter⟩
  obtain ⟨body, bodyEq, noCapture, derived⟩ := Derives.exists_of_ordinary
    (absent rfl (by decide)) (absent rfl (by decide)) (absent rfl (by decide))
    (absent rfl (by decide))
  have kindEq : body.kind = .nonCapturing := by
    rw [Outline.kind, Outline.content, bodyEq]
    exact GroupKind.ofBody_of_flags nonempty letters (.inl rfl) []
  have notCapturing : body.kind.isCapturing = false := by
    rw [kindEq]
    rfl
  refine ⟨.group body .done, ?_, ?_, ?_, ?_, ?_⟩
  · rw [flagsEq, Outline.text, bodyEq]
    rfl
  · rw [Outline.isFlat, noCapture]
    rfl
  · rw [Outline.definitions, kindEq]
    rfl
  · rw [Outline.simplified, Outline.unnamed_of_not_capturing notCapturing]
    rfl
  · intro other
    rw [Outline.text, bodyEq, List.cons_append, List.append_assoc]
    exact .group (derived _) (.done other)

theorem after_inlineFlags (options : CompileOptions) :
    Place.outside.after options.inlineFlags = .outside := by
  rcases options.inlineFlags_eq with flagsEq | ⟨flags, -, written, flagsEq⟩
  · rw [flagsEq]
    rfl
  have letters := isFlagLetter_of_written written
  have absent {character : Char} (notLetter : GroupKind.isFlagLetter character = false)
      (notMark : character ∉ ['(', '?', ')']) : character ∉ options.inlineFlags := by
    have notFlag := GroupKind.not_mem_of_letters letters notLetter
    simp_all
  exact Place.after_of_ordinary (absent rfl (by decide)) (absent rfl (by decide))

theorem analyze_inlineFlags (options : CompileOptions) :
    analyze options.inlineFlags = .ok ⟨options.inlineFlags, ⟨[]⟩⟩ := by
  obtain ⟨outline, textEq, flat, noGroups, simplifiedEq, before⟩ :=
    options.exists_outline_inlineFlags
  have derived := before []
  rw [List.append_nil] at derived
  rw [← textEq, derived.analyze_eq_ok_iff]
  refine ⟨flat, Analysis.eq_of_groups ?_ noGroups.symm⟩
  rw [derived.analysis_simplified, simplifiedEq]

end CompileOptions

end NamedCapture
