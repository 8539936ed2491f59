import NamedCapture.Proofs.Verdict

/-!
Contract: the kind of a group is settled by its own text.

No test of a kind looks past a closing parenthesis, be it escaped, in a class, or
the one that ends the group. So the text from a group's parenthesis on and the text
of the group alone have the same kind.

Owns:
- the first closing parenthesis of a text, found among its bytes;
- the text of a structural group, at any depth;
- the agreement of the check for captures inside groups with the tabulation.

Does not own: which kind a group has.
-/

namespace NamedCapture

/-! ## The first closing parenthesis -/

namespace Text

/-- The offset of the first byte of a text that is a closing parenthesis. -/
def firstClosing? (text : Text) : Option Nat :=
  text.bytes.findIdx? (· == 0x29)

/-- No other character has the byte of a closing parenthesis. -/
theorem closing_not_mem_bytes {text : Text} (noClosing : ')' ∉ text) : 0x29 ∉ text.bytes := by
  intro member
  obtain ⟨character, inText, encoded⟩ := List.mem_flatMap.mp member
  have marked : Mark.closeParenthesis ∈ Mark.allOfChar character :=
    List.mem_map.mpr ⟨0x29, encoded, rfl⟩
  rw [Mark.allOfChar_eq, List.mem_cons, List.mem_replicate] at marked
  have meaning : Mark.ofChar character = .closeParenthesis := by
    rcases marked with first | ⟨-, later⟩
    · exact first.symm
    · cases later
  have same : character = ')' := by
    grind [Mark.ofChar]
  exact noClosing (same ▸ inText)

/-- The first closing parenthesis stands behind everything before it. -/
theorem firstClosing?_append {inside : Text} (noClosing : ')' ∉ inside) (after : Text) :
    firstClosing? (inside ++ ')' :: after) = some inside.byteLength := by
  have notInside : inside.bytes.findIdx? (· == 0x29) = none := by
    rw [List.findIdx?_eq_none_iff]
    intro byte member
    rw [beq_eq_false_iff_ne]
    rintro rfl
    exact closing_not_mem_bytes noClosing member
  have bytesEq : bytes (inside ++ ')' :: after) = inside.bytes ++ 0x29 :: after.bytes :=
    bytes_append inside (')' :: after)
  rw [firstClosing?, bytesEq, List.findIdx?_append, notInside, List.findIdx?_cons]
  simp

end Text

namespace GroupKind

theorem classify_of_ne_opening {first : Char} (different : first ≠ '(') (rest : Text) :
    classify (first :: rest) = .capturing := by
  simp [classify, different]

/-- Two texts that agree up to a closing parenthesis open groups of the same kind. -/
theorem classify_append_closing (inside after other : Text) :
    classify (inside ++ ')' :: after) = classify (inside ++ ')' :: other) := by
  cases inside with
  | nil => rfl
  | cons first inside =>
      by_cases opens : first = '('
      · subst opens
        show ofBody (inside ++ ')' :: after) = ofBody (inside ++ ')' :: other)
        rw [ofBody_append_closing, ofBody_append_closing inside other]
      · rw [List.cons_append, List.cons_append, classify_of_ne_opening opens,
          classify_of_ne_opening opens]

end GroupKind

/-! ## The text of a structural group -/

namespace Text

/-- Matching parentheses enclose a body. -/
theorem Encloses.exists_body
    {pattern : Text} {opening closing : Nat} (encloses : pattern.Encloses opening closing) :
    ∃ before body after : Text, pattern = before ++ '(' :: (body ++ ')' :: after) ∧
      before.byteLength = opening ∧ opening + 1 + body.byteLength = closing := by
  obtain ⟨leading, inside, trailing, split, -⟩ := encloses
  have openingMember : .opening opening ∈ pattern.parentheses := by
    simp [split]
  have closingMember : .closing closing ∈ pattern.parentheses := by
    simp [split]
  obtain ⟨before, rest, opens, openingEq, -⟩ :=
    Place.opening_mem_parentheses_iff.mp openingMember
  obtain ⟨front, after, closes, closingEq, -⟩ :=
    Place.closing_mem_parentheses_iff.mp closingMember
  rw [Nat.zero_add] at openingEq closingEq
  have ordered : opening < closing := by
    have increasing := pattern.parentheses_pairwise
    rw [split, List.pairwise_append, List.pairwise_cons] at increasing
    exact increasing.2.1.1 (.closing closing) (by simp)
  have width : byteLength (before ++ ['(']) = opening + 1 := by
    rw [byteLength_append, openingEq]
    rfl
  have same : (before ++ ['(']) ++ rest = front ++ ')' :: after := by
    rw [← closes, opens]
    simp
  obtain ⟨body, frontEq, restEq⟩ := exists_between_of_append_eq same (by omega)
  refine ⟨before, body, after, ?_, openingEq, ?_⟩
  · rw [opens, restEq]
  · rw [← closingEq, frontEq, byteLength_append, width]

end Text

theorem Derives.exists_closing
    {pattern : Text} {outline : Outline} (derived : Derives pattern outline []) {opening : Nat}
    (member : opening ∈ pattern.openings) : ∃ closing, pattern.Encloses opening closing := by
  have listed : .opening opening ∈ pattern.parentheses :=
    Parenthesis.mem_filterMap_openingOffset?_iff.mp member
  exact derived.balanced.exists_partner.1 opening listed

/-! ## The two checks of a group -/

namespace Analysis

/-- The check for captures inside groups reads on from a parenthesis, the tabulation
reads a group alone. They agree on a group: what the check passes over is not listed,
and what it finds is listed, with the name that the check would read. -/
structure AgreeOn (pattern : Text) (opening closing : Nat) (content : Text) : Prop where
  skipped : firstCapture? pattern [opening] = none → ∀ progress,
    absorb pattern progress ⟨⟨opening, closing + 1⟩, []⟩ = .ok progress
  listed : firstCapture? pattern [opening] ≠ none → ∀ progress, ∃ following,
    absorb pattern progress ⟨⟨opening, closing + 1⟩, []⟩ = .ok following ∧
      following.groups = progress.groups ++
        [⟨progress.groups.length, content,
          (GroupKind.classify (tailFrom pattern opening)).name?, ⟨opening, closing + 1⟩⟩]

theorem firstCapture?_singleton (pattern : Text) (offset : Nat) :
    firstCapture? pattern [offset] =
      if (GroupKind.classify (tailFrom pattern offset)).isCapturing then some offset
      else none := by
  rw [firstCapture?, List.find?_cons, List.find?_nil]
  cases (GroupKind.classify (tailFrom pattern offset)).isCapturing <;> rfl

/-- Two checks that classify a group alike agree on it. -/
theorem agreeOn_of_classify_eq
    {pattern content : Text} {opening closing : Nat}
    (sliced : pattern.slice? opening (closing + 1) = some content)
    (same : GroupKind.classify content = GroupKind.classify (tailFrom pattern opening)) :
    AgreeOn pattern opening closing content := by
  have cut : pattern.sliceAt? ⟨opening, closing + 1⟩ = some content := sliced
  have noneInside : firstCapture? pattern [] = none := rfl
  constructor
  · intro passed progress
    rw [firstCapture?_singleton] at passed
    simp only [absorb, noneInside, cut, Option.getD_some, same]
    cases kindEq : GroupKind.classify (tailFrom pattern opening) <;>
      simp_all [GroupKind.isCapturing]
  · intro found progress
    rw [firstCapture?_singleton] at found
    simp only [absorb, noneInside, cut, Option.getD_some, same]
    cases kindEq : GroupKind.classify (tailFrom pattern opening) <;>
      simp_all [GroupKind.isCapturing, GroupKind.name?, Progress.addGroup,
        Progress.addNameSpan]

end Analysis

/-- The kind of a group depends on nothing past the first closing parenthesis behind
its opening, wherever that one stands and whatever follows. In a pattern that can be
scanned every structural opening parenthesis has a partner, and the text between the
two has the kind of all that stands behind the first; so the check for captures inside
groups and the tabulation agree on every structural group, at any depth. -/
theorem GroupKind.classify_is_local :
    (∀ group : Text, ')' ∈ group → ∃ closing front,
      group.firstClosing? = some closing ∧ group.slice? 0 (closing + 1) = some front ∧
      ∀ after, classify (front ++ after) = classify group) ∧
    ∀ pattern groups, scanPattern pattern = .ok groups →
      (∀ opening ∈ pattern.openings, ∃ closing, pattern.Encloses opening closing) ∧
      ∀ opening closing, pattern.Encloses opening closing →
        ∃ content, pattern.slice? opening (closing + 1) = some content ∧
          classify content = classify (Analysis.tailFrom pattern opening) ∧
          Analysis.AgreeOn pattern opening closing content := by
  constructor
  · intro group member
    obtain ⟨inside, rest, rfl, noClosing⟩ := List.eq_append_cons_of_mem member
    refine ⟨Text.byteLength inside, inside ++ [')'], Text.firstClosing?_append noClosing rest,
      ?_, ?_⟩
    · have split : inside ++ ')' :: rest = [] ++ ((inside ++ [')']) ++ rest) := by
        simp
      rw [split]
      apply Text.slice?_append
      · rfl
      · rw [Text.byteLength_append, Text.byteLength_nil, Nat.zero_add]
        rfl
    · intro after
      rw [List.append_assoc, List.singleton_append]
      exact classify_append_closing inside after rest
  · intro pattern groups scanned
    obtain ⟨outline, derived⟩ := exists_derives_of_scanPattern scanned
    refine ⟨fun opening member => derived.exists_closing member, ?_⟩
    intro opening closing encloses
    obtain ⟨before, body, after, split, openingEq, closingEq⟩ := encloses.exists_body
    have sliced : pattern.slice? opening (closing + 1) = some ('(' :: (body ++ [')'])) := by
      have opened : '('.utf8Size = 1 := rfl
      have closed : Text.byteLength [')'] = 1 := rfl
      have placed : pattern = before ++ ('(' :: (body ++ [')']) ++ after) := by
        rw [split]
        simp
      rw [placed]
      apply Text.slice?_append
      · exact openingEq.symm
      · rw [Text.byteLength_cons, Text.byteLength_append, opened, closed]
        omega
    have tailEq : Analysis.tailFrom pattern opening = '(' :: (body ++ ')' :: after) := by
      rw [Analysis.tailFrom, split, ← openingEq, Text.dropBytes?_append, Option.getD_some]
    have same : classify ('(' :: (body ++ [')'])) =
        classify (Analysis.tailFrom pattern opening) := by
      rw [tailEq]
      exact classify_append_closing ('(' :: body) [] after
    exact ⟨_, sliced, same, Analysis.agreeOn_of_classify_eq sliced same⟩

/-- The first closing parenthesis behind an opening stands in a class or is escaped,
and one of the groups is nested: the kinds are the same with and without what
follows. -/
theorem GroupKind.classify_is_local_past_literal_parentheses :
    let pattern : Text := "(?<a>[)](?i:\\)é))(b)".toList
    pattern.firstClosing? = some 6 ∧
    (∃ closing front, pattern.firstClosing? = some closing ∧
      pattern.slice? 0 (closing + 1) = some front ∧
      ∀ after, classify (front ++ after) = classify pattern) ∧
    pattern.slice? 8 17 = some "(?i:\\)é)".toList ∧
    ∃ content, pattern.slice? 8 17 = some content ∧
      classify content = classify (Analysis.tailFrom pattern 8) ∧
      Analysis.AgreeOn pattern 8 16 content := by
  intro pattern
  have encloses : pattern.Encloses 8 16 :=
    ⟨[.opening 0], [], [.closing 17, .opening 18, .closing 20], rfl, .nil⟩
  refine ⟨rfl, classify_is_local.1 pattern (by decide), rfl, ?_⟩
  exact (classify_is_local.2 pattern _ rfl).2 8 16 encloses

end NamedCapture
