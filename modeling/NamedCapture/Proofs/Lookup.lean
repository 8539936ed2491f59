import NamedCapture.Proofs.Annotations
import NamedCapture.Proofs.Mapping
import NamedCapture.Proofs.Outcomes

/-!
Contract: a group is found in a view as it is found in the table, by index and by
name.

Owns:
- the numbers and names of a view's results, as the table lists them;
- the agreement of the two look-ups by name, which search different lists;
- the group that answers for a name, and the names that no group answers for.

Does not own: the text of a group beyond whether there is one.
-/

namespace NamedCapture

/-! ## Tables -/

namespace GroupTable

/-- The position of a name is that of the first entry with it. -/
theorem position?_eq_some_iff {table : GroupTable} {name : Text} {position : Nat} :
    table.position? name = some position ↔
      (∃ group, table.get? position = some group ∧ group.name = some name) ∧
      ∀ earlier group, earlier < position → table.get? earlier = some group →
        group.name ≠ some name := by
  unfold position? get?
  rw [List.findIdx?_eq_some_iff_getElem]
  constructor
  · intro ⟨inside, named, first⟩
    refine ⟨⟨_, List.getElem?_eq_getElem inside, of_decide_eq_true named⟩, ?_⟩
    intro earlier group before found nameEq
    obtain ⟨earlierInside, rfl⟩ := List.getElem?_eq_some_iff.mp found
    exact first earlier before (decide_eq_true nameEq)
  · intro ⟨⟨group, found, nameEq⟩, first⟩
    obtain ⟨inside, rfl⟩ := List.getElem?_eq_some_iff.mp found
    refine ⟨inside, decide_eq_true nameEq, ?_⟩
    intro earlier before named
    exact first earlier _ before (List.getElem?_eq_getElem (Nat.lt_trans before inside))
      (of_decide_eq_true named)

/-- A name without a position is the name of no entry. -/
theorem position?_eq_none_iff {table : GroupTable} {name : Text} :
    table.position? name = none ↔ ∀ group ∈ table.groups, group.name ≠ some name := by
  unfold position?
  simp

end GroupTable

/-! ## Views -/

namespace View

/-- A view whose results have the numbers and the names of a table's entries, in
order. -/
structure Mirrors (view : View) (table : GroupTable) : Prop where
  indices : view.results.map GroupResult.groupIndex = List.range' 1 table.size
  names : view.results.map GroupResult.groupName = table.groups.map GroupDefinition.name

/-- The view of a match mirrors the table it was mapped under. -/
theorem mirrors_of_mapMatch
    {subject : Text} {ranges : CaptureRanges} {table : GroupTable} {view : View}
    (mapped : mapMatch subject ranges table = .ok view) : view.Mirrors table := by
  rcases mapMatch_cases subject ranges table with
    failed | ⟨position, range, failed⟩ | ⟨other, otherEq, columns⟩
  · simp [mapped] at failed
  · simp [mapped] at failed
  · have same : view = other := Except.ok.inj (mapped.symm.trans otherEq)
    rw [same]
    exact ⟨columns.indices, columns.names⟩

namespace Mirrors

variable {view : View} {table : GroupTable}

/-- The names of a view are those of the table as a sequence. -/
theorem names_eq (mirrors : view.Mirrors table) : view.names = table.names := by
  have viewNames : view.names = (view.results.map GroupResult.groupName).filterMap id := by
    simp [View.names, List.filterMap_map]
  have tableNames : table.names = (table.groups.map GroupDefinition.name).filterMap id := by
    simp [GroupTable.names, List.filterMap_map]
  rw [viewNames, mirrors.names, tableNames]

/-- A number and a name at each index, in the view as in the table. -/
theorem result?_index (mirrors : view.Mirrors table) (index : Nat) :
    (view.result? (.index index)).map (fun result => (result.groupIndex, result.groupName)) =
      (table.get? index).map fun group => (index + 1, group.name) := by
  have numbers := congrArg (·[index]?) mirrors.indices
  have names := congrArg (·[index]?) mirrors.names
  simp only [List.getElem?_map] at numbers names
  change view.results[index]?.map _ = table.groups[index]?.map _
  by_cases inside : index < table.size
  · rw [List.getElem?_range' inside] at numbers
    have groupInside : index < table.groups.length := inside
    rw [List.getElem?_eq_getElem groupInside] at names ⊢
    cases found : view.results[index]? with
    | none =>
        rw [found] at numbers
        cases numbers
    | some result =>
        rw [found] at numbers names
        simp only [Option.map_some, Option.some.injEq] at numbers names
        rw [Option.map_some, Option.map_some, numbers, names, Nat.one_mul, Nat.add_comm]
  · have groupOutside : table.groups[index]? = none :=
      List.getElem?_eq_none (Nat.le_of_not_lt inside)
    rw [groupOutside] at names ⊢
    simp only [Option.map_none, Option.map_eq_none_iff] at names ⊢
    exact names

/-- The search among the results of a view ends where the search among the entries
of the table does. -/
theorem result?_name (mirrors : view.Mirrors table) (name : Text) :
    view.result? (.name name) =
      (table.position? name).bind fun position => view.result? (.index position) := by
  have position : table.position? name =
      view.results.findIdx? (fun result => decide (result.groupName = some name)) := by
    have inView := List.findIdx?_map (p := fun entry => decide (entry = some name))
      (f := GroupResult.groupName) (l := view.results)
    have inTable := List.findIdx?_map (p := fun entry => decide (entry = some name))
      (f := GroupDefinition.name) (l := table.groups)
    rw [mirrors.names, inTable] at inView
    exact inView
  rw [position]
  exact List.find?_eq_bind_findIdx?_getElem?

/-- The first group of a name answers for it. -/
theorem result?_name_of_position
    (mirrors : view.Mirrors table) {name : Text} {position : Nat}
    (positionEq : table.position? name = some position) :
    view.result? (.name name) = view.result? (.index position) := by
  rw [mirrors.result?_name, positionEq, Option.bind_some]

theorem result?_name_eq_none_iff (mirrors : view.Mirrors table) {name : Text} :
    view.result? (.name name) = none ↔ table.position? name = none := by
  constructor
  · intro missing
    by_contra found
    obtain ⟨position, positionEq⟩ := Option.ne_none_iff_exists'.mp found
    obtain ⟨⟨group, groupEq, -⟩, -⟩ := GroupTable.position?_eq_some_iff.mp positionEq
    have entry := mirrors.result?_index position
    rw [← mirrors.result?_name_of_position positionEq, missing, groupEq] at entry
    simp at entry
  · intro unlisted
    rw [mirrors.result?_name, unlisted, Option.bind_none]

end Mirrors

end View

/-- A group has a text in the view of a match exactly when the match has a range for
it. -/
theorem get?_index_isSome_of_mapMatch
    {subject : Text} {ranges : CaptureRanges} {table : GroupTable} {view : View}
    {position : Nat} {group : GroupDefinition}
    (mapped : mapMatch subject ranges table = .ok view)
    (groupEq : table.get? position = some group) :
    ∃ range, ranges[position + 1]? = some range ∧
      (view.get? (.index position)).isSome = range.isSome := by
  have entry := (View.mirrors_of_mapMatch mapped).result?_index position
  rw [groupEq] at entry
  obtain ⟨result, resultEq, -⟩ := Option.map_eq_some_iff.mp entry
  obtain ⟨range, _, rangeEq, -, -, -, textEq⟩ := mapMatch_getElem? mapped resultEq
  refine ⟨range, rangeEq, ?_⟩
  rw [View.get?, resultEq, Option.bind_some]
  cases range with
  | none =>
      rw [captureText] at textEq
      rw [← Except.ok.inj textEq]
      rfl
  | some range =>
      rw [captureText] at textEq
      split at textEq
      · rw [← Except.ok.inj textEq]
        rfl
      · cases textEq

/-! ## Names of a pattern -/

/-- A name that some entry of an accepted pattern has is spelled with letters
behind the entry's parenthesis, and that spelling is cut out of the pattern. -/
theorem exists_annotation_of_mem_groups
    {pattern name : Text} {analysis : Analysis} {group : GroupDefinition}
    (analyzed : analyze pattern = .ok analysis)
    (member : group ∈ analysis.table.groups) (nameEq : group.name = some name) :
    name ≠ [] ∧ (∀ letter ∈ name, GroupKind.isNameLetter letter = true) ∧
      ∃ label after, GroupKind.IsLabel label name ∧
        pattern.OpensAt group.span.start (label ++ after) ∧
        Analysis.annotationSpan group.span.start label.byteLength ∈
          analysis.table.annotations pattern := by
  obtain ⟨outline, derived, flat, rfl⟩ := analyze_eq_ok_iff.mp analyzed
  obtain ⟨label, after, opens, written, annotationsEq, -⟩ :=
    derived.exists_label_of_mem_definitions flat member nameEq
  have spelled := written
  obtain ⟨_, -, -, nonempty, letters⟩ := spelled
  refine ⟨nonempty, letters, label, after, written, opens, ?_⟩
  apply List.mem_flatMap.mpr
  refine ⟨group, member, ?_⟩
  rw [annotationsEq]
  exact List.mem_singleton_self _

/-! ## Look-ups -/

/-- Look-ups agree across the table of an accepted pattern and every view mapped
under it. The names are the same sequence. A result is found at an index exactly
when an entry is, and has the next number and the entry's name. A name is found
where the table puts it, or nowhere. Of several groups with one name the first
answers, whether or not it took part: there is a text for the name exactly when
there is a range for that group. A name is found only if it is one of letters and some
parenthesis of the pattern is annotated with it. -/
theorem lookups_agree_of_mapMatch
    {pattern : Text} {analysis : Analysis} (analyzed : analyze pattern = .ok analysis)
    {subject : Text} {ranges : CaptureRanges} {view : View}
    (mapped : mapMatch subject ranges analysis.table = .ok view) :
    view.names = analysis.table.names ∧
    (∀ index,
      ((view.result? (.index index)).isSome ↔ (analysis.table.get? index).isSome) ∧
      ∀ result group, view.result? (.index index) = some result →
        analysis.table.get? index = some group →
        result.groupIndex = index + 1 ∧ result.groupName = group.name) ∧
    (∀ name,
      (∀ position, analysis.table.position? name = some position →
        (view.result? (.name name)).isSome ∧
        view.result? (.name name) = view.result? (.index position)) ∧
      (analysis.table.position? name = none → view.result? (.name name) = none)) ∧
    (∀ name position group, analysis.table.get? position = some group →
      group.name = some name →
      (∀ earlier other, earlier < position → analysis.table.get? earlier = some other →
        other.name ≠ some name) →
      view.result? (.name name) = view.result? (.index position) ∧
      (view.get? (.name name) = none ↔ ranges[position + 1]? = some none)) ∧
    (∀ name, (∀ start label after, GroupKind.IsLabel label name →
        ¬ pattern.OpensAt start (label ++ after)) →
      view.result? (.name name) = none) ∧
    ∀ name, (name = [] ∨ ∃ character ∈ name, GroupKind.isNameLetter character = false) →
      view.result? (.name name) = none := by
  have mirrors := View.mirrors_of_mapMatch mapped
  refine ⟨mirrors.names_eq, ?_, ?_, ?_, ?_, ?_⟩
  · intro index
    have entry := mirrors.result?_index index
    constructor
    · have present := congrArg Option.isSome entry
      rw [Option.isSome_map, Option.isSome_map] at present
      rw [present]
    · intro result group resultEq groupEq
      rw [resultEq, groupEq] at entry
      simpa using entry
  · intro name
    refine ⟨?_, mirrors.result?_name_eq_none_iff.mpr⟩
    intro position positionEq
    refine ⟨?_, mirrors.result?_name_of_position positionEq⟩
    rw [Option.isSome_iff_ne_none, ne_eq, mirrors.result?_name_eq_none_iff, positionEq]
    exact Option.some_ne_none position
  · intro name position group groupEq nameEq first
    have positionEq : analysis.table.position? name = some position :=
      GroupTable.position?_eq_some_iff.mpr ⟨⟨group, groupEq, nameEq⟩, first⟩
    have found := mirrors.result?_name_of_position positionEq
    refine ⟨found, ?_⟩
    obtain ⟨range, rangeEq, isSome⟩ := get?_index_isSome_of_mapMatch mapped groupEq
    have textEq : view.get? (.name name) = view.get? (.index position) := by
      unfold View.get?
      rw [found]
    rw [textEq, rangeEq, Option.some.injEq, ← Option.not_isSome_iff_eq_none, isSome,
      Option.not_isSome_iff_eq_none]
  · intro name unspelled
    apply mirrors.result?_name_eq_none_iff.mpr
    apply GroupTable.position?_eq_none_iff.mpr
    intro group member nameEq
    obtain ⟨-, -, label, after, written, opens, -⟩ :=
      exists_annotation_of_mem_groups analyzed member nameEq
    exact unspelled group.span.start label after written opens
  · intro name unsupported
    apply mirrors.result?_name_eq_none_iff.mpr
    apply GroupTable.position?_eq_none_iff.mpr
    intro group member nameEq
    obtain ⟨nonempty, letters, -⟩ := exists_annotation_of_mem_groups analyzed member nameEq
    rcases unsupported with empty | ⟨character, inside, noLetter⟩
    · exact nonempty empty
    · rw [letters character inside] at noLetter
      cases noLetter

/-- The first of two groups with one name takes no part, so the name has no text; the
name with a digit is left in the pattern and found nowhere. -/
theorem lookups_agree_of_duplicate_name :
    ∃ analysis view,
      analyze "(?<a>x)|(?<a>y)(?<n1>z)(w)".toList = .ok analysis ∧
      mapMatch "yzw".toList [some ⟨0, 3⟩, none, some ⟨0, 1⟩, some ⟨1, 2⟩, some ⟨2, 3⟩]
        analysis.table = .ok view ∧
      view.names = analysis.table.names ∧
      view.get? (.name ['a']) = none ∧
      view.get? (.index 1) = some ['y'] ∧
      view.result? (.name "n1".toList) = none := by
  obtain ⟨namesEq, -, -, first, -, unsupported⟩ :=
    @lookups_agree_of_mapMatch "(?<a>x)|(?<a>y)(?<n1>z)(w)".toList _ rfl
      "yzw".toList [some ⟨0, 3⟩, none, some ⟨0, 1⟩, some ⟨1, 2⟩, some ⟨2, 3⟩] _ rfl
  refine ⟨_, _, rfl, rfl, namesEq, ?_, rfl, ?_⟩
  · refine ((first ['a'] 0 _ rfl rfl ?_).2).mpr rfl
    intro earlier _ before
    exact absurd before (Nat.not_lt_zero earlier)
  · apply unsupported
    exact .inr ⟨'1', by decide, by decide⟩

end NamedCapture
