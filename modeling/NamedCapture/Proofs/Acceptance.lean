import NamedCapture.Proofs.Grammar
import NamedCapture.Proofs.Scanning

/-!
Contract: the scan accepts exactly the patterns that the grammar derives, and
yields the groups of the derivation.

Owns:
- what pairing the parentheses of an outline does to a scan state;
- the totality of classes and other items;
- acceptance, with the groups and the openings inside each.

Does not own: the errors of patterns that are not accepted.
-/

namespace NamedCapture

/-! ## Pairing the parentheses of an outline -/

namespace ScanState

/-- List groups as opened inside the outermost open one. -/
def addInner (state : ScanState) (offsets : List Nat) : ScanState :=
  { state with inner := state.inner ++ offsets }

def addGroups (state : ScanState) (groups : List ScannedGroup) : ScanState :=
  { state with groups := state.groups ++ groups }

@[simp] theorem addInner_nil (state : ScanState) : state.addInner [] = state := by
  simp [addInner]

@[simp] theorem addGroups_nil (state : ScanState) : state.addGroups [] = state := by
  simp [addGroups]

theorem addInner_addInner (state : ScanState) (first second : List Nat) :
    (state.addInner first).addInner second = state.addInner (first ++ second) := by
  simp [addInner]

theorem addGroups_addGroups (state : ScanState) (first second : List ScannedGroup) :
    (state.addGroups first).addGroups second = state.addGroups (first ++ second) := by
  simp [addGroups]

/-- A group inside an open one opens, takes in what is inside it, and closes:
only the inner list grows. -/
theorem closeGroup_nested
    {state : ScanState} (nested : state.opened ≠ [])
    (offset finish : Nat) (offsets : List Nat) :
    ((state.openGroup offset).addInner offsets).closeGroup finish =
      .ok (state.addInner (offset :: offsets)) := by
  rcases state with ⟨mode, opened, inner, groups⟩
  cases opened with
  | nil => exact absurd rfl nested
  | cons first remaining => simp [openGroup, addInner, closeGroup]

/-- An outermost group opens, takes in what is inside it, and closes: it is
finished with the inner list. -/
theorem closeGroup_outermost
    {state : ScanState} (outermost : state.opened = []) (fresh : state.inner = [])
    (offset finish : Nat) (offsets : List Nat) :
    ((state.openGroup offset).addInner offsets).closeGroup finish =
      .ok (state.addGroups [⟨⟨offset, finish + 1⟩, offsets⟩]) := by
  rcases state with ⟨mode, opened, inner, groups⟩
  cases outermost
  cases fresh
  rfl

theorem openGroup_opened (state : ScanState) (offset : Nat) :
    (state.openGroup offset).opened = offset :: state.opened := rfl

/-- Inside an open group, an outline only adds its openings to the inner
list. -/
theorem pairAll_nested
    (outline : Outline) (state : ScanState) (nested : state.opened ≠ [])
    (offset : Nat) (later : List Parenthesis) :
    state.pairAll (outline.parentheses offset ++ later) =
      (state.addInner (outline.openings offset)).pairAll later := by
  induction outline generalizing state offset later with
  | done => rw [Outline.openings, addInner_nil]; rfl
  | plain item rest inductionHypothesis => exact inductionHypothesis _ nested _ later
  | group body rest bodyHypothesis restHypothesis =>
      have inside : (state.openGroup offset).opened ≠ [] := by
        rw [openGroup_opened]
        exact List.cons_ne_nil _ _
      rw [Outline.parentheses, Outline.openings]
      simp only [List.cons_append, List.append_assoc]
      rw [pairAll]
      show (state.openGroup offset).pairAll _ = _
      rw [bodyHypothesis _ inside, pairAll]
      show (closeGroup _ _).bind _ = _
      rw [closeGroup_nested nested]
      show (state.addInner (offset :: body.openings (offset + 1))).pairAll _ = _
      rw [restHypothesis (state.addInner _) nested, addInner_addInner,
        List.cons_append]

/-- Outside of all groups, an outline adds its groups. -/
theorem pairAll_outermost
    (outline : Outline) (state : ScanState)
    (outermost : state.opened = []) (fresh : state.inner = [])
    (offset : Nat) (later : List Parenthesis) :
    state.pairAll (outline.parentheses offset ++ later) =
      (state.addGroups (outline.groups offset)).pairAll later := by
  induction outline generalizing state offset later with
  | done => rw [Outline.groups, addGroups_nil]; rfl
  | plain item rest inductionHypothesis =>
      exact inductionHypothesis _ outermost fresh _ later
  | group body rest _ restHypothesis =>
      have inside : (state.openGroup offset).opened ≠ [] := by
        rw [openGroup_opened]
        exact List.cons_ne_nil _ _
      rw [Outline.parentheses, Outline.groups]
      simp only [List.cons_append, List.append_assoc]
      rw [pairAll]
      show (state.openGroup offset).pairAll _ = _
      rw [pairAll_nested body _ inside, pairAll]
      show (closeGroup _ _).bind _ = _
      rw [closeGroup_outermost outermost fresh]
      show (state.addGroups [_]).pairAll _ = _
      rw [restHypothesis (state.addGroups _) outermost fresh,
        addGroups_addGroups]
      rfl

end ScanState

/-- The scan of a pattern that is derived yields the groups of its outline. -/
theorem scanPattern_of_derives
    {pattern : Text} {outline : Outline} (derived : Derives pattern outline []) :
    scanPattern pattern = .ok (outline.groups 0) := by
  have paired := ScanState.pairAll_outermost outline .start rfl rfl 0 []
  rw [List.append_nil] at paired
  rw [scanPattern_eq_pairAll, Text.parentheses, derived.parentheses_eq 0,
    Place.parentheses_nil, List.append_nil, paired]
  rfl

/-! ## Totality of items -/

/-- Every text can be read as the contents of a class. -/
theorem ClassTail.exists_rest (text : Text) : ∃ rest, ClassTail text rest := by
  induction length : text.length using Nat.strongRecOn generalizing text with
  | ind size inductionHypothesis =>
      match text with
      | [] => exact ⟨[], .unterminated⟩
      | character :: text =>
          rw [List.length_cons] at length
          by_cases escape : character = '\\'
          · subst character
            match text with
            | [] => exact ⟨[], .loneBackslash⟩
            | escaped :: text =>
                rw [List.length_cons] at length
                obtain ⟨rest, later⟩ := inductionHypothesis text.length (by omega) text rfl
                exact ⟨rest, .escape escaped later⟩
          by_cases opens : character = '['
          · subst character
            obtain ⟨head, headSplit⟩ := Text.exists_append_classContents text
            have headLength := congrArg List.length headSplit
            rw [List.length_append] at headLength
            obtain ⟨middle, inner⟩ :=
              inductionHypothesis (Text.classContents text).length (by omega) _ rfl
            obtain ⟨taken, innerSplit⟩ := inner.exists_append
            have innerLength := congrArg List.length innerSplit
            rw [List.length_append] at innerLength
            obtain ⟨rest, later⟩ :=
              inductionHypothesis middle.length (by omega) _ rfl
            exact ⟨rest, .nested inner later⟩
          by_cases closes : character = ']'
          · subst character
            exact ⟨text, .close text⟩
          obtain ⟨rest, later⟩ := inductionHypothesis text.length (by omega) text rfl
          exact ⟨rest, .member escape opens closes later⟩

theorem PlainItem.exists_rest {character : Char} (text : Text)
    (notOpen : character ≠ '(') (notClose : character ≠ ')') :
    ∃ rest, PlainItem (character :: text) rest := by
  by_cases escape : character = '\\'
  · subst character
    match text with
    | [] => exact ⟨[], .loneBackslash⟩
    | escaped :: text => exact ⟨text, .escape escaped text⟩
  by_cases bracket : character = '['
  · subst character
    obtain ⟨rest, contents⟩ := ClassTail.exists_rest (Text.classContents text)
    exact ⟨rest, .bracket contents⟩
  exact ⟨text, .character text escape bracket notOpen notClose⟩

/-! ## Acceptance -/

theorem ScanState.exists_closeGroup
    {state : ScanState} {first : Nat} {remaining : List Nat}
    (opened : state.opened = first :: remaining) (offset : Nat) :
    ∃ following, state.closeGroup offset = .ok following ∧
      following.opened = remaining := by
  rcases state with ⟨mode, _, inner, groups⟩
  cases opened
  cases remaining with
  | nil => exact ⟨_, rfl, rfl⟩
  | cons second remaining => exact ⟨_, rfl, rfl⟩

/-- A text whose structural parentheses can all be paired is derived up to its
end, or up to the parenthesis that closes the innermost open group. -/
theorem exists_derives_of_pairAll
    (text : Text) {state final : ScanState} {offset : Nat}
    (paired : state.pairAll (Place.outside.parentheses offset text) = .ok final)
    (closed : final.opened = []) :
    ∃ outline rest, Derives text outline rest ∧
      ((state.opened = [] ∧ rest = []) ∨
        (state.opened ≠ [] ∧ ∃ after, rest = ')' :: after)) := by
  induction length : text.length using Nat.strongRecOn
    generalizing text state offset with
  | ind size inductionHypothesis =>
      match text with
      | [] =>
          cases paired
          exact ⟨.done, [], .done [], .inl ⟨closed, rfl⟩⟩
      | character :: text =>
          rw [List.length_cons] at length
          by_cases closes : character = ')'
          · subst character
            refine ⟨.done, ')' :: text, .done _, .inr ⟨?_, text, rfl⟩⟩
            intro outermost
            rw [Place.parentheses_outside_closing] at paired
            change (state.closeGroup offset).bind _ = _ at paired
            rw [ScanState.closeGroup, outermost] at paired
            cases paired
          by_cases opens : character = '('
          · subst character
            rw [Place.parentheses_outside_opening] at paired
            change (state.openGroup offset).pairAll _ = _ at paired
            have inside : (state.openGroup offset).opened ≠ [] := by
              rw [ScanState.openGroup_opened]
              exact List.cons_ne_nil _ _
            obtain ⟨body, rest, inner, ⟨outermost, -⟩ | ⟨-, after, rfl⟩⟩ :=
              inductionHypothesis text.length (by omega) text paired rfl
            · exact absurd outermost inside
            -- The body is read; its parenthesis closes the group just opened.
            rw [inner.parentheses_eq, ScanState.pairAll_nested body _ inside,
              Place.parentheses_outside_closing] at paired
            have bodyOpened :
                ((state.openGroup offset).addInner (body.openings (offset + 1))).opened =
                  offset :: state.opened := rfl
            obtain ⟨following, closedGroup, remaining⟩ :=
              ScanState.exists_closeGroup bodyOpened (offset + 1 + body.width)
            change (ScanState.closeGroup _ _).bind _ = _ at paired
            rw [closedGroup] at paired
            have shorter : after.length < size := by
              have innerLength := congrArg List.length inner.text_eq
              rw [List.length_append, List.length_cons] at innerLength
              omega
            obtain ⟨outline, rest, later, ending⟩ :=
              inductionHypothesis after.length shorter after paired rfl
            rw [remaining] at ending
            exact ⟨.group body outline, rest, .group inner later, ending⟩
          -- Any other character starts an item without parentheses.
          obtain ⟨middle, read⟩ := PlainItem.exists_rest text opens closes
          obtain ⟨item, nonempty, split⟩ := read.exists_append
          have itemBytes := congrArg Text.byteLength split
          rw [Text.byteLength_append] at itemBytes
          have itemLength := congrArg List.length split
          have itemPositive := List.length_pos_iff.mpr nonempty
          rw [List.length_append, List.length_cons] at itemLength
          rw [Place.parentheses_outside_of_plainItem read
            (offset + Text.byteLength item) (by omega)] at paired
          obtain ⟨outline, rest, later, ending⟩ :=
            inductionHypothesis middle.length (by omega) middle paired rfl
          exact ⟨.plain item outline, rest, .plain split read later, ending⟩

theorem exists_derives_of_scanPattern
    {pattern : Text} {groups : List ScannedGroup}
    (scanned : scanPattern pattern = .ok groups) :
    ∃ outline, Derives pattern outline [] := by
  rw [scanPattern_eq_pairAll] at scanned
  cases paired : ScanState.start.pairAll pattern.parentheses with
  | error error =>
      rw [paired] at scanned
      cases scanned
  | ok final =>
      rw [paired] at scanned
      change final.finish = .ok groups at scanned
      have closed : final.opened = [] := by
        unfold ScanState.finish at scanned
        split at scanned
        · assumption
        · cases scanned
      obtain ⟨outline, rest, derived, ⟨-, rfl⟩ | ⟨inside, -⟩⟩ :=
        exists_derives_of_pairAll pattern paired closed
      · exact ⟨outline, derived⟩
      · exact absurd rfl inside

theorem Derives.openings_eq
    {pattern : Text} {outline : Outline} (derived : Derives pattern outline []) :
    pattern.openings = outline.openings 0 := by
  rw [Text.openings, Text.parentheses, derived.parentheses_eq 0,
    Place.parentheses_nil, List.append_nil, outline.filterMap_parentheses]

/-- The scan accepts exactly the patterns that the grammar derives. It yields the
outermost groups of the derivation in source order, each with the openings
strictly inside it, and so lists every structural opening parenthesis of the
pattern exactly once. -/
theorem scanPattern_ok_iff_derives (pattern : Text) :
    (∀ groups, scanPattern pattern = .ok groups ↔
      ∃ outline, Derives pattern outline [] ∧ groups = outline.groups 0) ∧
    (∀ outline, Derives pattern outline [] →
      pattern = outline.text ∧
        (outline.groups 0).flatMap (fun group => group.span.start :: group.inner) =
          pattern.openings) ∧
    pattern.openings.Pairwise (· < ·) ∧
    ∀ offset, offset ∈ pattern.openings ↔ ∃ body, pattern.OpensAt offset body := by
  refine ⟨fun groups => ⟨?_, ?_⟩, ?_, pattern.openings_pairwise,
    fun offset => Text.mem_openings_iff⟩
  · intro scanned
    obtain ⟨outline, derived⟩ := exists_derives_of_scanPattern scanned
    rw [scanPattern_of_derives derived] at scanned
    exact ⟨outline, derived, (Except.ok.inj scanned).symm⟩
  · rintro ⟨outline, derived, rfl⟩
    exact scanPattern_of_derives derived
  · intro outline derived
    have whole := derived.text_eq
    rw [List.append_nil] at whole
    rw [outline.flatMap_groups, derived.openings_eq]
    exact ⟨whole, rfl⟩

end NamedCapture
