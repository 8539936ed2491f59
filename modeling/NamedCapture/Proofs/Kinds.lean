import NamedCapture.Pattern.GroupKind
import NamedCapture.Proofs.Slices

/-!
Contract: how far into a text its group kind reaches, and what a name looks
like.

Owns:
- the shape of a body that starts with a name, and the width of its annotation;
- the kind of a body that starts with flags;
- the independence of a kind from everything past a closing parenthesis.

Does not own: which closing parenthesis ends a group.
-/

namespace NamedCapture.GroupKind

/-! ## Names -/

/-- A name annotation: an opening, a nonempty name of letters, and the closing
angle bracket. -/
def IsLabel (label name : Text) : Prop :=
  ∃ opening ∈ nameOpenings, label = opening ++ name ++ ['>'] ∧ name ≠ [] ∧
    ∀ letter ∈ name, isNameLetter letter = true

theorem afterOpening?_eq_some_iff {opening text rest : Text} :
    afterOpening? opening text = some rest ↔ text = opening ++ rest := by
  induction opening generalizing text with
  | nil => simp [afterOpening?]
  | cons expected opening inductionHypothesis =>
      cases text with
      | nil => simp [afterOpening?]
      | cons character text =>
          rw [afterOpening?, List.cons_append, List.cons.injEq]
          by_cases same : expected = character
          · rw [if_pos same, inductionHypothesis]
            simp [same]
          · rw [if_neg same]
            simp [Ne.symm same]

theorem isLabel_of_annotationAfter?
    {body opening name : Text} {annotationLength : Nat}
    (known : opening ∈ nameOpenings)
    (found : annotationAfter? body opening = some (name, annotationLength)) :
    ∃ label rest, body = label ++ rest ∧ IsLabel label name ∧
      annotationLength = label.length := by
  obtain ⟨text, afterEq, named⟩ := Option.bind_eq_some_iff.mp found
  rw [afterOpening?_eq_some_iff] at afterEq
  simp only at named
  split at named
  case isFalse => cases named
  case isTrue conditions =>
    obtain ⟨nonempty, closed⟩ := conditions
    obtain ⟨nameEq, lengthEq⟩ := Prod.mk.inj (Option.some.inj named)
    have letters : ∀ letter ∈ name, isNameLetter letter = true := by
      intro letter member
      rw [← nameEq] at member
      exact List.all_eq_true.mp List.all_takeWhile letter member
    have nameFirst : name ++ text.drop name.length = text := by
      have firstLetters := List.takeWhile_prefix (p := isNameLetter) (l := text)
      rw [nameEq] at firstLetters
      exact List.prefix_iff_eq_append.mp firstLetters
    rw [nameEq] at closed nonempty lengthEq
    obtain ⟨rest, restEq⟩ : ∃ rest, text.drop name.length = '>' :: rest :=
      List.head?_eq_some_iff.mp closed
    refine ⟨opening ++ name ++ ['>'], rest, ?_, ⟨opening, known, rfl, nonempty, letters⟩, ?_⟩
    · rw [afterEq, ← nameFirst, restEq]
      simp
    · rw [← lengthEq]
      simp only [List.length_append, List.length_cons, List.length_nil]

/-- A group with a name starts with the annotation that gives it. -/
theorem exists_label_of_named
    {body name : Text} {annotationLength : Nat}
    (named : ofBody body = .named name annotationLength) :
    ∃ label rest, body = label ++ rest ∧ IsLabel label name ∧
      annotationLength = label.length := by
  rw [ofBody] at named
  split at named
  case isTrue => cases named
  split at named
  case isTrue => cases named
  split at named
  case h_2 => split at named <;> cases named
  case h_1 found =>
    cases named
    obtain ⟨opening, known, foundAfter⟩ := List.exists_of_findSome?_eq_some found
    exact isLabel_of_annotationAfter? known foundAfter

theorem utf8Size_of_isNameLetter {letter : Char} (isLetter : isNameLetter letter = true) :
    letter.utf8Size = 1 := by
  have upperOrLower : letter.isUpper = true ∨ letter.isLower = true :=
    (Bool.or_eq_true _ _).mp isLetter
  have bound : letter.val ≤ 'z'.val := by
    rcases upperOrLower with upper | lower
    · have bounds : letter.val ≥ 'A'.val ∧ letter.val ≤ 'Z'.val := of_decide_eq_true upper
      exact UInt32.le_trans bounds.2 (by decide)
    · have bounds := (Bool.and_eq_true _ _).mp lower
      exact of_decide_eq_true bounds.2
  exact Char.utf8Size_eq_one_iff.mpr (UInt32.le_trans bound (by decide))

theorem IsLabel.letter_or_punctuation
    {label name : Text} (written : IsLabel label name)
    {character : Char} (member : character ∈ label) :
    isNameLetter character = true ∨ character ∈ ['?', 'P', '<', '>'] := by
  obtain ⟨opening, known, rfl, -, letters⟩ := written
  have openingCharacters : opening ⊆ ['?', 'P', '<', '>'] := by
    simp only [nameOpenings, List.mem_cons, List.not_mem_nil, or_false] at known
    rcases known with rfl | rfl <;> simp
  rw [List.mem_append, List.mem_append] at member
  rcases member with (inOpening | inName) | closing
  · exact .inr (openingCharacters inOpening)
  · exact .inl (letters character inName)
  · rw [List.mem_singleton.mp closing]
    exact .inr (by decide)

theorem IsLabel.utf8Size
    {label name : Text} (written : IsLabel label name)
    {character : Char} (member : character ∈ label) :
    character.utf8Size = 1 := by
  rcases written.letter_or_punctuation member with letter | known
  · exact utf8Size_of_isNameLetter letter
  · simp only [List.mem_cons, List.not_mem_nil, or_false] at known
    rcases known with rfl | rfl | rfl | rfl <;> rfl

theorem IsLabel.not_mem
    {label name : Text} (written : IsLabel label name)
    {character : Char} (notLetter : isNameLetter character = false)
    (notPunctuation : character ∉ ['?', 'P', '<', '>']) :
    character ∉ label := by
  intro member
  rcases written.letter_or_punctuation member with letter | known
  · rw [notLetter] at letter
    cases letter
  · exact notPunctuation known

theorem annotationAfter?_label
    {opening name rest : Text} (nonempty : name ≠ [])
    (letters : ∀ letter ∈ name, isNameLetter letter = true) :
    annotationAfter? (opening ++ name ++ ['>'] ++ rest) opening =
      some (name, opening.length + name.length + 1) := by
  have opened : afterOpening? opening (opening ++ name ++ ['>'] ++ rest) =
      some (name ++ '>' :: rest) :=
    afterOpening?_eq_some_iff.mpr (by simp)
  have nameEq : (name ++ '>' :: rest).takeWhile isNameLetter = name := by
    have stops : isNameLetter '>' = false := by decide
    rw [List.takeWhile_append_of_pos letters, List.takeWhile_cons_of_neg (by simp [stops]),
      List.append_nil]
  rw [annotationAfter?, opened, Option.bind_some]
  simp only [nameEq, List.drop_left]
  rw [if_pos ⟨nonempty, rfl⟩]

theorem annotation?_of_isLabel {label name : Text} (written : IsLabel label name) (rest : Text) :
    annotation? (label ++ rest) = some (name, label.length) := by
  obtain ⟨opening, known, rfl, nonempty, letters⟩ := written
  have found : annotationAfter? (opening ++ name ++ ['>'] ++ rest) opening =
      some (name, (opening ++ name ++ ['>']).length) := by
    rw [annotationAfter?_label nonempty letters]
    simp [Nat.add_assoc]
  simp only [nameOpenings, List.mem_cons, List.not_mem_nil, or_false] at known
  rcases known with rfl | rfl
  · rw [annotation?, nameOpenings, List.findSome?_cons, found]
  · have other : annotationAfter? ("?P<".toList ++ name ++ ['>'] ++ rest) "?<".toList = none := rfl
    rw [annotation?, nameOpenings, List.findSome?_cons, other]
    simp only [List.findSome?_cons, found]

/-- A group that starts with an annotation is named by it. -/
theorem ofBody_of_isLabel {label name : Text} (written : IsLabel label name) (rest : Text) :
    ofBody (label ++ rest) = .named name label.length := by
  rw [ofBody, annotation?_of_isLabel written]
  obtain ⟨opening, known, rfl, nonempty, letters⟩ := written
  obtain ⟨first, name, rfl⟩ := List.exists_cons_of_ne_nil nonempty
  -- A letter comes where a lookbehind has an equals sign or an exclamation mark.
  have firstLetter := letters first List.mem_cons_self
  have notEquals : '=' ≠ first := by
    rintro rfl
    cases firstLetter
  have notExclamation : '!' ≠ first := by
    rintro rfl
    cases firstLetter
  simp only [nameOpenings, List.mem_cons, List.not_mem_nil, or_false] at known
  rcases known with rfl | rfl
  · simp [lookaroundOpenings, List.isPrefixOf, notEquals, notExclamation]
  · simp [lookaroundOpenings, List.isPrefixOf]

theorem annotation?_eq_none
    {body : Text} (unopened : ∀ opening ∈ nameOpenings, ¬ opening <+: body) :
    annotation? body = none := by
  rw [annotation?, List.findSome?_eq_none_iff]
  intro opening known
  rw [annotationAfter?, Option.bind_eq_none_iff]
  intro rest opened
  rw [afterOpening?_eq_some_iff] at opened
  exact absurd ⟨rest, opened.symm⟩ (unopened opening known)

/-! ## Flags -/

theorem not_mem_of_letters
    {flags : Text} (letters : ∀ letter ∈ flags, isFlagLetter letter = true)
    {character : Char} (notLetter : isFlagLetter character = false) :
    character ∉ flags := by
  intro member
  rw [letters character member] at notLetter
  cases notLetter

/-- A group of flags takes no number, whether it ends there or has a body. -/
theorem ofBody_of_flags
    {flags : Text} {closing : Char} (nonempty : flags ≠ [])
    (letters : ∀ letter ∈ flags, isFlagLetter letter = true)
    (closes : closing = ')' ∨ closing = ':') (rest : Text) :
    ofBody ('?' :: (flags ++ closing :: rest)) = .nonCapturing := by
  have stops : isFlagLetter closing = false := by
    rcases closes with rfl | rfl <;> decide
  have taken : (flags ++ closing :: rest).takeWhile isFlagLetter = flags := by
    rw [List.takeWhile_append_of_pos letters, List.takeWhile_cons_of_neg (by simp [stops]),
      List.append_nil]
  have flagBody : isFlagBody ('?' :: (flags ++ closing :: rest)) = true := by
    simp [isFlagBody, taken, nonempty, closes]
  obtain ⟨first, others, rfl⟩ := List.exists_cons_of_ne_nil nonempty
  have different (mark : Char) (notFlag : isFlagLetter mark = false) :
      ∀ letter ∈ first :: others, mark ≠ letter := by
    rintro letter member rfl
    exact not_mem_of_letters letters notFlag member
  have notClosing : '<' ≠ closing := by
    rcases closes with rfl | rfl <;> decide
  -- The flag `P` may come first, but no bracket opens a name behind it.
  have noAnnotation : annotation? ('?' :: (first :: others ++ closing :: rest)) = none := by
    apply annotation?_eq_none
    have noBracket := different '<' rfl first List.mem_cons_self
    cases others with
    | nil => simp [nameOpenings, noBracket, notClosing]
    | cons second others =>
        have noSecond := different '<' rfl second (by simp)
        simp [nameOpenings, noBracket, noSecond]
  rw [ofBody, flagBody, noAnnotation]
  simp [lookaroundOpenings, List.isPrefixOf,
    different ':' rfl first List.mem_cons_self,
    different '=' rfl first List.mem_cons_self,
    different '!' rfl first List.mem_cons_self,
    different '<' rfl first List.mem_cons_self]

/-! ## Kinds and what comes after the group -/

theorem isPrefixOf_append_closing
    {opening inside after : Text} (noClosing : ')' ∉ opening) :
    opening.isPrefixOf (inside ++ ')' :: after) = opening.isPrefixOf inside := by
  induction opening generalizing inside with
  | nil => rfl
  | cons expected opening inductionHypothesis =>
      rw [List.mem_cons, not_or] at noClosing
      obtain ⟨different, later⟩ := noClosing
      cases inside with
      | nil => simp [List.isPrefixOf, Ne.symm different]
      | cons character inside =>
          rw [List.cons_append, List.isPrefixOf, List.isPrefixOf,
            inductionHypothesis later]

theorem afterOpening?_append_closing
    {opening inside after : Text} (noClosing : ')' ∉ opening) :
    afterOpening? opening (inside ++ ')' :: after) =
      (afterOpening? opening inside).map (· ++ ')' :: after) := by
  induction opening generalizing inside with
  | nil => rfl
  | cons expected opening inductionHypothesis =>
      rw [List.mem_cons, not_or] at noClosing
      obtain ⟨different, later⟩ := noClosing
      cases inside with
      | nil => simp [afterOpening?, Ne.symm different]
      | cons character inside =>
          rw [List.cons_append, afterOpening?, afterOpening?]
          split
          · exact inductionHypothesis later
          · rfl

theorem takeWhile_append_closing
    {continues : Char → Bool} (stops : continues ')' = false) (inside after : Text) :
    (inside ++ ')' :: after).takeWhile continues = inside.takeWhile continues := by
  induction inside with
  | nil => simp [stops]
  | cons character inside inductionHypothesis =>
      rw [List.cons_append, List.takeWhile, List.takeWhile, inductionHypothesis]

theorem head?_drop_append_closing
    (continues : Char → Bool) (inside after : Text) :
    ((inside ++ ')' :: after).drop (inside.takeWhile continues).length).head? =
      ((inside ++ [')']).drop (inside.takeWhile continues).length).head? := by
  have bound : (inside.takeWhile continues).length ≤ inside.length :=
    (List.takeWhile_prefix continues).length_le
  rw [List.drop_append_of_le_length bound, List.drop_append_of_le_length bound,
    List.head?_append, List.head?_append]
  rfl

theorem annotationAfter?_append_closing
    (opening : Text) (noClosing : ')' ∉ opening) (inside after : Text) :
    annotationAfter? (inside ++ ')' :: after) opening =
      annotationAfter? (inside ++ [')']) opening := by
  rw [annotationAfter?, annotationAfter?, afterOpening?_append_closing noClosing,
    afterOpening?_append_closing noClosing]
  cases afterOpening? opening inside with
  | none => rfl
  | some rest =>
      have stops : isNameLetter ')' = false := by decide
      simp only [Option.map_some, Option.bind_some, takeWhile_append_closing stops,
        head?_drop_append_closing]

theorem isFlagBody_append_closing (inside after : Text) :
    isFlagBody (inside ++ ')' :: after) = isFlagBody (inside ++ [')']) := by
  cases inside with
  | nil => rfl
  | cons first inside =>
      have stops : isFlagLetter ')' = false := by decide
      by_cases question : first = '?'
      · subst first
        simp only [isFlagBody, List.cons_append, takeWhile_append_closing stops,
          head?_drop_append_closing]
      · simp [isFlagBody, question]

theorem annotation?_append_closing (inside after : Text) :
    annotation? (inside ++ ')' :: after) = annotation? (inside ++ [')']) := by
  have short := annotationAfter?_append_closing "?<".toList (by decide)
  have long := annotationAfter?_append_closing "?P<".toList (by decide)
  unfold annotation?
  simp only [nameOpenings, List.findSome?_cons, List.findSome?_nil, short inside after,
    long inside after]

/-- What stands after a group says nothing about its kind. -/
theorem ofBody_append_closing (inside after : Text) :
    ofBody (inside ++ ')' :: after) = ofBody (inside ++ [')']) := by
  have openingEq {opening : Text} (noClosing : ')' ∉ opening) :
      opening.isPrefixOf (inside ++ ')' :: after) =
        opening.isPrefixOf (inside ++ [')']) := by
    rw [isPrefixOf_append_closing noClosing, isPrefixOf_append_closing noClosing]
  have lookaroundEq :
      lookaroundOpenings.any (·.isPrefixOf (inside ++ ')' :: after)) =
        lookaroundOpenings.any (·.isPrefixOf (inside ++ [')'])) := by
    have noClosing : ∀ opening ∈ lookaroundOpenings, ')' ∉ opening := by decide
    rw [Bool.eq_iff_iff, List.any_eq_true, List.any_eq_true]
    refine exists_congr fun opening => and_congr_right fun known => ?_
    rw [openingEq (noClosing opening known)]
  rw [ofBody, ofBody, annotation?_append_closing, lookaroundEq,
    isFlagBody_append_closing, openingEq (by decide), openingEq (by decide)]

end NamedCapture.GroupKind
