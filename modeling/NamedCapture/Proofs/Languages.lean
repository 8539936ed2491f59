import NamedCapture.Proofs.Kinds

/-!
Contract: the kinds of groups as languages of texts.

Each kind but the last has a language, described by what its texts look like and
never by how they are read. A text is of a kind exactly when it belongs to that
kind's language, and opens a plain capturing group when it belongs to none.

Owns:
- the languages of names, lookarounds, and groups without a number;
- the kind of every text, well formed or not;
- the independence of a kind from the order of the tests.

Does not own: whether a text is a whole group.
-/

namespace NamedCapture.GroupKind

/-! ## Languages -/

def IsAsciiLetter (character : Char) : Prop :=
  ('A' ≤ character ∧ character ≤ 'Z') ∨ ('a' ≤ character ∧ character ≤ 'z')

/-- A parenthesis, an annotation that gives a name, and any rest. -/
structure SpellsName (group opening name rest : Text) : Prop where
  known : opening = ['?', '<'] ∨ opening = ['?', 'P', '<']
  split : group = '(' :: (opening ++ (name ++ '>' :: rest))
  nonempty : name ≠ []
  letters : ∀ letter ∈ name, IsAsciiLetter letter

def IsNamedBy (group name : Text) (annotationLength : Nat) : Prop :=
  ∃ opening rest, SpellsName group opening name rest ∧
    annotationLength = opening.length + name.length + 1

def IsLookaround (group : Text) : Prop :=
  "(?=".toList <+: group ∨ "(?!".toList <+: group ∨
    "(?<=".toList <+: group ∨ "(?<!".toList <+: group

/-- A parenthesis, a question mark, and flags that end with the group or before its
body. -/
structure ListsFlags (group flags : Text) (closing : Char) (rest : Text) : Prop where
  split : group = '(' :: '?' :: (flags ++ closing :: rest)
  nonempty : flags ≠ []
  letters : ∀ flag ∈ flags, IsAsciiLetter flag ∨ flag = '-'
  closes : closing = ')' ∨ closing = ':'

def IsUnnumbered (group : Text) : Prop :=
  "(?:".toList <+: group ∨ "(?>".toList <+: group ∨
    ∃ flags closing rest, ListsFlags group flags closing rest

/-- The language of a kind. A plain capturing group has none. -/
def Describes (group : Text) : GroupKind → Prop
  | .named name annotationLength => IsNamedBy group name annotationLength
  | .lookaround => IsLookaround group
  | .nonCapturing => IsUnnumbered group
  | .capturing => False

/-! ## Letters -/

theorem isNameLetter_iff {character : Char} :
    isNameLetter character = true ↔ IsAsciiLetter character := by
  have upper : character.isUpper = true ↔ 'A' ≤ character ∧ character ≤ 'Z' :=
    decide_eq_true_iff
  have lower : character.isLower = true ↔ 'a' ≤ character ∧ character ≤ 'z' :=
    (Bool.and_eq_true_iff).trans (and_congr decide_eq_true_iff decide_eq_true_iff)
  show (character.isUpper || character.isLower) = true ↔ _
  rw [Bool.or_eq_true, upper, lower]
  rfl

theorem isFlagLetter_iff {character : Char} :
    isFlagLetter character = true ↔ IsAsciiLetter character ∨ character = '-' := by
  rw [← isNameLetter_iff]
  simp [isFlagLetter, isNameLetter]

/-- An annotation as the languages describe it is one that the reading of names
knows. -/
theorem SpellsName.isLabel {group opening name rest : Text}
    (spells : SpellsName group opening name rest) :
    IsLabel (opening ++ name ++ ['>']) name := by
  refine ⟨opening, ?_, rfl, spells.nonempty, ?_⟩
  · rcases spells.known with rfl | rfl <;> decide
  · intro letter member
    exact isNameLetter_iff.mpr (spells.letters letter member)

theorem exists_spellsName_of_isLabel {label name : Text}
    (written : IsLabel label name) (rest : Text) :
    ∃ opening, SpellsName ('(' :: (label ++ rest)) opening name rest ∧
      label.length = opening.length + name.length + 1 := by
  obtain ⟨opening, known, rfl, nonempty, letters⟩ := written
  refine ⟨opening, ⟨?_, by simp, nonempty, ?_⟩, by simp [Nat.add_assoc]⟩
  · simpa [nameOpenings] using known
  · intro letter member
    exact isNameLetter_iff.mp (letters letter member)

/-! ## From languages to kinds -/

theorem classify_of_spellsName {group opening name rest : Text}
    (spells : SpellsName group opening name rest) :
    classify group = .named name (opening.length + name.length + 1) := by
  have named := ofBody_of_isLabel spells.isLabel rest
  have lengthEq : (opening ++ name ++ ['>']).length = opening.length + name.length + 1 := by
    simp [Nat.add_assoc]
  rw [lengthEq] at named
  rw [spells.split, classify, ← named]
  simp

theorem classify_of_isLookaround {group : Text} (opens : IsLookaround group) :
    classify group = .lookaround := by
  rcases opens with ⟨rest, rfl⟩ | ⟨rest, rfl⟩ | ⟨rest, rfl⟩ | ⟨rest, rfl⟩ <;>
    simp [classify, ofBody, lookaroundOpenings, List.isPrefixOf]

theorem classify_of_listsFlags {group flags rest : Text} {closing : Char}
    (lists : ListsFlags group flags closing rest) : classify group = .nonCapturing := by
  rw [lists.split, classify]
  apply ofBody_of_flags lists.nonempty _ lists.closes
  intro flag member
  exact isFlagLetter_iff.mpr (lists.letters flag member)

theorem classify_of_isUnnumbered {group : Text} (opens : IsUnnumbered group) :
    classify group = .nonCapturing := by
  rcases opens with ⟨rest, rfl⟩ | ⟨rest, rfl⟩ | ⟨flags, closing, rest, lists⟩
  · simp [classify, ofBody, List.isPrefixOf]
  · have noAnnotation : annotation? ('?' :: '>' :: rest) = none :=
      annotation?_eq_none (by simp [nameOpenings])
    simp [classify, ofBody, lookaroundOpenings, List.isPrefixOf, noAnnotation]
  · exact classify_of_listsFlags lists

theorem classify_of_describes {group : Text} {kind : GroupKind} (describes : Describes group kind) :
    classify group = kind := by
  cases kind with
  | named name annotationLength =>
      obtain ⟨opening, rest, spells, rfl⟩ := describes
      exact classify_of_spellsName spells
  | lookaround => exact classify_of_isLookaround describes
  | nonCapturing => exact classify_of_isUnnumbered describes
  | capturing => exact describes.elim

/-- No text belongs to the languages of two kinds. -/
theorem Describes.unique {group : Text} {first second : GroupKind}
    (firstDescribes : Describes group first) (secondDescribes : Describes group second) :
    first = second := by
  rw [← classify_of_describes firstDescribes, classify_of_describes secondDescribes]

/-! ## From tests to languages -/

/-- The test that answers with a kind for the bodies it accepts. -/
def testFor (kind : GroupKind) (accepts : Text → Bool) (body : Text) : Option GroupKind :=
  if accepts body then some kind else none

/-- The test for a name answers with the name and the length of its annotation. -/
def nameTest (body : Text) : Option GroupKind :=
  (annotation? body).map fun annotation => .named annotation.1 annotation.2

/-- The tests that a body is put to, in the order in which they are made. -/
def tests : List (Text → Option GroupKind) :=
  [testFor .nonCapturing fun body => "?:".toList.isPrefixOf body,
    testFor .lookaround fun body => lookaroundOpenings.any (·.isPrefixOf body),
    nameTest,
    testFor .nonCapturing fun body => "?>".toList.isPrefixOf body || isFlagBody body]

/-- The kind of a text whose body is put to some tests in order, when the first answer
counts. -/
def classifyBy (order : List (Text → Option GroupKind)) : Text → GroupKind
  | '(' :: body => (order.findSome? fun test => test body).getD .capturing
  | _ => .capturing

theorem testFor_eq_some_iff
    {kind answer : GroupKind} {accepts : Text → Bool} {body : Text} :
    testFor kind accepts body = some answer ↔ accepts body = true ∧ kind = answer := by
  simp [testFor]

theorem getD_findSome?_testFor
    (kind : GroupKind) (accepts : Text → Bool) (later : List (Text → Option GroupKind))
    (body : Text) :
    ((testFor kind accepts :: later).findSome? fun test => test body).getD .capturing =
      if accepts body then kind else
        (later.findSome? fun test => test body).getD .capturing := by
  rw [List.findSome?_cons, testFor]
  split <;> simp_all

/-- The kind of a body is the first answer of the tests. -/
theorem ofBody_eq_findSome? (body : Text) :
    ofBody body = (tests.findSome? fun test => test body).getD .capturing := by
  rw [tests, getD_findSome?_testFor, getD_findSome?_testFor, List.findSome?_cons, nameTest, ofBody]
  cases annotation? body with
  | some annotation => rfl
  | none =>
      simp only [Option.map_none]
      rw [getD_findSome?_testFor]
      rfl

theorem exists_listsFlags {body : Text} (flagBody : isFlagBody body = true) :
    ∃ flags closing rest, ListsFlags ('(' :: body) flags closing rest := by
  unfold isFlagBody at flagBody
  split at flagBody
  · rename_i text
    simp only [Bool.and_eq_true, Bool.not_eq_true', Bool.or_eq_true, beq_iff_eq] at flagBody
    obtain ⟨nonempty, closed⟩ := flagBody
    have closing : ∃ closing, (closing = ')' ∨ closing = ':') ∧
        (text.drop (text.takeWhile isFlagLetter).length).head? = some closing := by
      rcases closed with closed | closed
      · exact ⟨')', .inl rfl, closed⟩
      · exact ⟨':', .inr rfl, closed⟩
    obtain ⟨closing, closes, headEq⟩ := closing
    obtain ⟨rest, restEq⟩ := List.head?_eq_some_iff.mp headEq
    have flagsFirst := List.takeWhile_prefix (p := isFlagLetter) (l := text)
    rw [List.prefix_iff_eq_append, restEq] at flagsFirst
    refine ⟨text.takeWhile isFlagLetter, closing, rest, by rw [flagsFirst], ?_, ?_, closes⟩
    · simpa using nonempty
    · intro flag member
      exact isFlagLetter_iff.mp (List.all_eq_true.mp List.all_takeWhile flag member)
  · cases flagBody

/-- A test answers only for texts in the language of its answer. -/
theorem describes_of_test
    {test : Text → Option GroupKind} {body : Text} {kind : GroupKind}
    (known : test ∈ tests) (answered : test body = some kind) :
    Describes ('(' :: body) kind := by
  simp only [tests, List.mem_cons, List.not_mem_nil, or_false] at known
  rcases known with rfl | rfl | rfl | rfl
  · obtain ⟨starts, rfl⟩ := testFor_eq_some_iff.mp answered
    obtain ⟨rest, rfl⟩ := List.isPrefixOf_iff_prefix.mp starts
    exact .inl ⟨rest, rfl⟩
  · obtain ⟨starts, rfl⟩ := testFor_eq_some_iff.mp answered
    obtain ⟨opening, member, opens⟩ := List.any_eq_true.mp starts
    obtain ⟨rest, rfl⟩ := List.isPrefixOf_iff_prefix.mp opens
    simp only [lookaroundOpenings, List.mem_cons, List.not_mem_nil, or_false] at member
    rcases member with rfl | rfl | rfl | rfl <;> simp [Describes, IsLookaround]
  · obtain ⟨⟨name, annotationLength⟩, found, rfl⟩ := Option.map_eq_some_iff.mp answered
    obtain ⟨opening, known, foundAfter⟩ := List.exists_of_findSome?_eq_some found
    obtain ⟨label, rest, rfl, written, lengthEq⟩ := isLabel_of_annotationAfter? known foundAfter
    obtain ⟨spelled, spells, labelLength⟩ := exists_spellsName_of_isLabel written rest
    exact ⟨spelled, rest, spells, by rw [lengthEq, labelLength]⟩
  · obtain ⟨accepted, rfl⟩ := testFor_eq_some_iff.mp answered
    rcases Bool.or_eq_true_iff.mp accepted with starts | flagBody
    · obtain ⟨rest, rfl⟩ := List.isPrefixOf_iff_prefix.mp starts
      exact .inr (.inl ⟨rest, rfl⟩)
    · exact .inr (.inr (exists_listsFlags flagBody))

/-- Among tests that never contradict each other it does not matter which one answers
first. -/
theorem findSome?_eq_some_iff_of_agree
    {Value Answer : Type} {value : Value} {order : List (Value → Option Answer)} {answer : Answer}
    (agree : ∀ first ∈ order, ∀ second ∈ order, ∀ firstAnswer secondAnswer,
      first value = some firstAnswer → second value = some secondAnswer →
        firstAnswer = secondAnswer) :
    (order.findSome? fun test => test value) = some answer ↔
      ∃ test ∈ order, test value = some answer := by
  constructor
  · exact List.exists_of_findSome?_eq_some
  · intro ⟨test, member, answered⟩
    cases found : order.findSome? fun test => test value with
    | none =>
        rw [List.findSome?_eq_none_iff.mp found test member] at answered
        cases answered
    | some other =>
        obtain ⟨first, firstMember, firstAnswered⟩ := List.exists_of_findSome?_eq_some found
        rw [agree first firstMember test member other answer firstAnswered answered]

theorem classifyBy_of_perm {order : List (Text → Option GroupKind)} (perm : order.Perm tests)
    (group : Text) : classifyBy order group = classify group := by
  unfold classifyBy
  split
  · rename_i body
    have agree : ∀ first ∈ tests, ∀ second ∈ tests, ∀ firstAnswer secondAnswer,
        first body = some firstAnswer → second body = some secondAnswer →
          firstAnswer = secondAnswer := by
      intro first firstKnown second secondKnown firstAnswer secondAnswer firstEq secondEq
      exact (describes_of_test firstKnown firstEq).unique (describes_of_test secondKnown secondEq)
    have same : (order.findSome? fun test => test body) =
        tests.findSome? fun test => test body := by
      apply Option.ext
      intro answer
      rw [findSome?_eq_some_iff_of_agree agree, findSome?_eq_some_iff_of_agree]
      · simp only [perm.mem_iff]
      · simpa only [perm.mem_iff] using agree
    rw [same, ← ofBody_eq_findSome?]
    rfl
  · rename_i unopened
    unfold classify
    split
    · exact absurd rfl (unopened _)
    · rfl

/-- A kind with a language is that of the texts in the language. -/
theorem classify_eq_iff_describes {group : Text} {kind : GroupKind} (other : kind ≠ .capturing) :
    classify group = kind ↔ Describes group kind := by
  constructor
  · intro classified
    unfold classify at classified
    split at classified
    · rename_i body
      rw [ofBody_eq_findSome?] at classified
      cases found : tests.findSome? fun test => test body with
      | none =>
          rw [found] at classified
          exact absurd classified.symm other
      | some answer =>
          obtain ⟨test, known, answered⟩ := List.exists_of_findSome?_eq_some found
          rw [found, Option.getD_some] at classified
          rw [← classified]
          exact describes_of_test known answered
    · exact absurd classified.symm other
  · exact classify_of_describes

theorem classify_eq_capturing_iff {group : Text} :
    classify group = .capturing ↔ ∀ kind, ¬ Describes group kind := by
  constructor
  · intro classified kind describes
    rw [classify_of_describes describes] at classified
    subst classified
    exact describes
  · intro undescribed
    apply Decidable.byContradiction
    intro other
    exact undescribed _ ((classify_eq_iff_describes other).mp rfl)

/-- The parts of a text that spells a name are determined by it. -/
theorem SpellsName.unique
    {group opening name rest otherOpening otherName otherRest : Text}
    (spells : SpellsName group opening name rest)
    (otherSpells : SpellsName group otherOpening otherName otherRest) :
    opening = otherOpening ∧ name = otherName ∧ rest = otherRest := by
  have same := classify_of_spellsName spells
  rw [classify_of_spellsName otherSpells, named.injEq] at same
  obtain ⟨rfl, lengths⟩ := same
  have split := spells.split.symm.trans otherSpells.split
  have openings : opening = otherOpening := by
    rcases spells.known with rfl | rfl <;> rcases otherSpells.known with rfl | rfl <;>
      simp_all
  subst openings
  simp_all

/-- The bytes of an annotation are counted by its characters. -/
theorem SpellsName.byteLength_eq {group opening name rest : Text}
    (spells : SpellsName group opening name rest) :
    Text.byteLength (opening ++ name ++ ['>']) = opening.length + name.length + 1 := by
  rw [Text.byteLength_eq_length fun _ member => spells.isLabel.utf8Size member]
  simp [Nat.add_assoc]

/-- The kind of any text is decided by three languages of which it belongs to one at
most: it has a name exactly when it spells one, is a lookaround or unnumbered exactly
when it opens like one, and is a plain capturing group when it does none of this. A
name can be spelled in one way only, and is read back with the bytes of its annotation
whatever comes behind it. Since the languages have no text in common, the tests may be
made in any order. -/
theorem classify_decides_languages (group : Text) :
    (∀ name annotationLength,
      classify group = .named name annotationLength ↔ IsNamedBy group name annotationLength) ∧
    (classify group = .lookaround ↔ IsLookaround group) ∧
    (classify group = .nonCapturing ↔ IsUnnumbered group) ∧
    (classify group = .capturing ↔
      (∀ name annotationLength, ¬ IsNamedBy group name annotationLength) ∧
        ¬ IsLookaround group ∧ ¬ IsUnnumbered group) ∧
    (∀ name annotationLength, IsNamedBy group name annotationLength →
      ¬ IsLookaround group ∧ ¬ IsUnnumbered group) ∧
    ¬ (IsLookaround group ∧ IsUnnumbered group) ∧
    (∀ opening name rest, SpellsName group opening name rest →
      classify group = .named name (Text.byteLength (opening ++ name ++ ['>'])) ∧
      ∀ otherOpening otherName otherRest, SpellsName group otherOpening otherName otherRest →
        opening = otherOpening ∧ name = otherName ∧ rest = otherRest) ∧
    ∀ order : List (Text → Option GroupKind), order.Perm tests →
      classifyBy order group = classify group := by
  refine ⟨?_, ?_, ?_, ?_, ?_, ?_, ?_, ?_⟩
  · intro name annotationLength
    exact classify_eq_iff_describes (by simp)
  · exact classify_eq_iff_describes (by simp)
  · exact classify_eq_iff_describes (by simp)
  · rw [classify_eq_capturing_iff]
    constructor
    · intro undescribed
      exact ⟨fun name annotationLength => undescribed (.named name annotationLength),
        undescribed .lookaround, undescribed .nonCapturing⟩
    · intro ⟨unnamed, noLookaround, noUnnumbered⟩ kind describes
      cases kind with
      | named name annotationLength => exact unnamed name annotationLength describes
      | lookaround => exact noLookaround describes
      | nonCapturing => exact noUnnumbered describes
      | capturing => exact describes
  · intro name annotationLength spelled
    constructor
    · intro opens
      have same : GroupKind.named name annotationLength = .lookaround :=
        Describes.unique spelled opens
      cases same
    · intro opens
      have same : GroupKind.named name annotationLength = .nonCapturing :=
        Describes.unique spelled opens
      cases same
  · intro ⟨opensLookaround, opensUnnumbered⟩
    have same : GroupKind.lookaround = .nonCapturing :=
      Describes.unique opensLookaround opensUnnumbered
    cases same
  · intro opening name rest spells
    rw [spells.byteLength_eq]
    refine ⟨classify_of_spellsName spells, ?_⟩
    intro otherOpening otherName otherRest otherSpells
    exact spells.unique otherSpells
  · intro order perm
    exact classifyBy_of_perm perm group

/-- A name is read back from a text that ends inside a group, and the test for flags
may come before the test for names although both look at the letter `P`. -/
theorem classify_decides_languages_of_truncated :
    let group : Text := "(?P<ab>é".toList
    SpellsName group ['?', 'P', '<'] ['a', 'b'] ['é'] ∧
    classify group = .named ['a', 'b'] 6 ∧ ¬ IsUnnumbered group ∧
    classifyBy tests.reverse group = .named ['a', 'b'] 6 := by
  intro group
  have spells : SpellsName group ['?', 'P', '<'] ['a', 'b'] ['é'] :=
    ⟨.inr rfl, rfl, by simp, by simp [IsAsciiLetter]⟩
  obtain ⟨-, -, -, -, disjoint, -, recovered, inAnyOrder⟩ := classify_decides_languages group
  have named : classify group = .named ['a', 'b'] 6 := (recovered _ _ _ spells).1
  have apart := disjoint ['a', 'b'] 6 ⟨_, _, spells, rfl⟩
  refine ⟨spells, named, apart.2, ?_⟩
  rw [inAnyOrder _ tests.reverse_perm, named]

end NamedCapture.GroupKind
