import NamedCapture.Proofs.Grammar

/-!
Contract: what a derivation leaves over can be any text.

Only a class that is not closed and a backslash at the end read up to the end of
the text. Everything else ends at a character of its own, so a derivation that
leaves something over holds before any other text.

Owns: the exchange of the rest of a class, an item, and an outline.

Does not own: texts that are read up to their end.
-/

namespace NamedCapture

/-- A function that skips one special character skips it whatever comes after
the characters it leaves. -/
private theorem exists_head_of_skip
    {skip : Text → Text} {special : Char} (skipNil : skip [] = [])
    (skipCons : ∀ character rest,
      skip (character :: rest) = if character = special then rest else character :: rest)
    {text taken rest : Text} (nonempty : taken ≠ []) (split : skip text = taken ++ rest) :
    ∃ head, text = head ++ (taken ++ rest) ∧
      ∀ other, skip (head ++ (taken ++ other)) = taken ++ other := by
  cases text with
  | nil =>
      rw [skipNil] at split
      exact absurd (List.append_eq_nil_iff.mp split.symm).1 nonempty
  | cons first text =>
      rw [skipCons] at split
      by_cases same : first = special
      · rw [if_pos same] at split
        refine ⟨[first], by rw [split]; rfl, fun other => ?_⟩
        rw [List.singleton_append, skipCons, if_pos same]
      · rw [if_neg same] at split
        refine ⟨[], split, fun other => ?_⟩
        cases taken with
        | nil => exact absurd rfl nonempty
        | cons character taken =>
            obtain ⟨firstEq, -⟩ := List.cons.inj split
            rw [List.nil_append, List.cons_append, skipCons, ← firstEq, if_neg same]

/-- Where the contents of a class start does not depend on what comes after
them. -/
theorem Text.classContents_local
    {text taken rest : Text} (nonempty : taken ≠ [])
    (split : text.classContents = taken ++ rest) :
    ∃ head, text = head ++ (taken ++ rest) ∧
      ∀ other, Text.classContents (head ++ (taken ++ other)) = taken ++ other := by
  obtain ⟨bracket, bracketSplit, bracketOther⟩ :=
    exists_head_of_skip rfl afterBracket_cons nonempty split
  rw [← List.append_assoc] at bracketSplit
  obtain ⟨caret, caretSplit, caretOther⟩ :=
    exists_head_of_skip rfl afterCaret_cons (List.append_ne_nil_of_right_ne_nil _ nonempty)
      bracketSplit
  refine ⟨caret ++ bracket, by rw [caretSplit]; simp, fun other => ?_⟩
  have caretEq := caretOther other
  rw [List.append_assoc] at caretEq
  rw [classContents, List.append_assoc, caretEq, bracketOther]

/-- A class that leaves something over is read the same before any text. -/
theorem ClassTail.read_local
    {text rest : Text} (read : ClassTail text rest) (remaining : rest ≠ []) :
    ∃ taken, taken ≠ [] ∧ text = taken ++ rest ∧
      ∀ other, ClassTail (taken ++ other) other := by
  induction read with
  | close rest => exact ⟨[']'], by simp, rfl, fun other => .close other⟩
  | unterminated => exact absurd rfl remaining
  | loneBackslash => exact absurd rfl remaining
  | escape character _ inductionHypothesis =>
      obtain ⟨taken, -, rfl, later⟩ := inductionHypothesis remaining
      exact ⟨'\\' :: character :: taken, by simp, rfl,
        fun other => .escape character (later other)⟩
  | @member text rest character notEscape notOpen notClose _ inductionHypothesis =>
      obtain ⟨taken, -, rfl, later⟩ := inductionHypothesis remaining
      exact ⟨character :: taken, by simp, rfl,
        fun other => .member notEscape notOpen notClose (later other)⟩
  | @nested text middle rest _ _ innerHypothesis laterHypothesis =>
      obtain ⟨later, laterNonempty, rfl, laterOther⟩ := laterHypothesis remaining
      obtain ⟨inner, innerNonempty, innerSplit, innerOther⟩ := innerHypothesis
        (List.append_ne_nil_of_left_ne_nil laterNonempty _)
      obtain ⟨head, rfl, headOther⟩ := Text.classContents_local innerNonempty innerSplit
      refine ⟨'[' :: (head ++ (inner ++ later)), by simp, by simp, fun other => ?_⟩
      rw [List.cons_append, List.append_assoc, List.append_assoc]
      refine .nested ?_ (laterOther other)
      rw [headOther]
      exact innerOther (later ++ other)

theorem PlainItem.read_local
    {text rest : Text} (read : PlainItem text rest) (remaining : rest ≠ []) :
    ∃ item, text = item ++ rest ∧ ∀ other, PlainItem (item ++ other) other := by
  cases read with
  | escape character rest => exact ⟨['\\', character], rfl, fun other => .escape character other⟩
  | loneBackslash => exact absurd rfl remaining
  | @character character rest notEscape notBracket notOpen notClose =>
      exact ⟨[character], rfl,
        fun other => .character other notEscape notBracket notOpen notClose⟩
  | @bracket text rest contents =>
      obtain ⟨inner, innerNonempty, innerSplit, innerOther⟩ := contents.read_local remaining
      obtain ⟨head, rfl, headOther⟩ := Text.classContents_local innerNonempty innerSplit
      refine ⟨'[' :: (head ++ inner), by simp, fun other => ?_⟩
      rw [List.cons_append, List.append_assoc]
      refine .bracket ?_
      rw [headOther]
      exact innerOther other

/-- An item is read before any text, unless it was read up to the end of the text:
then nothing may come behind it. -/
theorem PlainItem.read_before
    {text item middle other : Text} (read : PlainItem text middle)
    (split : text = item ++ middle) (ended : middle = [] → other = []) :
    PlainItem (item ++ other) other := by
  by_cases exhausted : middle = []
  · rw [exhausted, List.append_nil] at split
    rw [ended exhausted, List.append_nil, ← split, ← exhausted]
    exact read
  · obtain ⟨taken, takenSplit, readOther⟩ := read.read_local exhausted
    rw [split] at takenSplit
    rw [List.append_cancel_right takenSplit]
    exact readOther other

theorem Derives.eq_done_of_nil
    {rest : Text} {outline : Outline} (derived : Derives [] outline rest) :
    outline = .done ∧ rest = [] := by
  cases derived with
  | done => exact ⟨rfl, rfl⟩
  | plain _ read _ => cases read

/-- An outline that leaves something over is derived before any text. -/
theorem Derives.read_local
    {text rest : Text} {outline : Outline} (derived : Derives text outline rest)
    (remaining : rest ≠ []) (other : Text) :
    Derives (outline.text ++ other) outline other := by
  induction derived generalizing other with
  | done => exact .done other
  | @plain text item middle rest outline split read later inductionHypothesis =>
      have middleRemaining : middle ≠ [] := by
        rw [later.text_eq]
        exact List.append_ne_nil_of_right_ne_nil _ remaining
      obtain ⟨readItem, readSplit, readOther⟩ := read.read_local middleRemaining
      rw [split] at readSplit
      rw [← List.append_cancel_right readSplit] at readOther
      rw [Outline.text, List.append_assoc]
      exact .plain rfl (readOther _) (inductionHypothesis remaining other)
  | @group text middle rest body outline _ later bodyHypothesis restHypothesis =>
      rw [Outline.text, List.cons_append, List.append_assoc, List.cons_append]
      exact .group (bodyHypothesis (List.cons_ne_nil _ _) _)
        (restHypothesis remaining other)

end NamedCapture
