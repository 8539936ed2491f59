import Mathlib.Data.List.Sort
import NamedCapture.Engine.Linear
import NamedCapture.Proofs.EngineNumbering
import NamedCapture.Proofs.Mapping
import NamedCapture.Proofs.Simplification

/-!
Contract: when the comparison of two counts makes names land on the groups they
were given to.

A compiled form is kept when the table and the engine count equally many groups.
That excludes a wrong name only if the table lists no group that the engine does
not number: otherwise one group too many and one too few may cancel out.

Of an engine no more is asked than that it numbers the groups of the simplified
pattern in the order of their opening parentheses, whichever these are.

Owns:
- where the entries of a table start in the simplified pattern;
- the exact condition under which equal counts align the two numberings;
- the conditions on the engine's numbering, and on flags, under which they always do;
- what this means for the views of a request.

Does not own: which patterns an engine compiles, or which groups it numbers.
-/

namespace NamedCapture

/-! ## Starts in the simplified pattern -/

namespace GroupTable

def annotationBytes : List GroupDefinition → Nat
  | [] => 0
  | group :: groups =>
      (GroupKind.classify group.content).annotationLength + annotationBytes groups

/-- The number of bytes cut out before the entry at a position. -/
def removedBefore (table : GroupTable) (position : Nat) : Nat :=
  annotationBytes (table.groups.take position)

/-- The starts of entries, each shifted left by the bytes cut out before it. -/
def shiftedStarts (removed : Nat) : List GroupDefinition → List Nat
  | [] => []
  | group :: groups =>
      (group.span.start - removed) ::
        shiftedStarts (removed + (GroupKind.classify group.content).annotationLength) groups

end GroupTable

namespace Analysis

/-- Where the parenthesis of the entry at a position stands in the simplified
pattern. -/
def shiftedStart (analysis : Analysis) (position : Nat) (group : GroupDefinition) : Nat :=
  group.span.start - analysis.table.removedBefore position

/-- An engine numbers the groups with these openings in the simplified pattern, in
this order. Its group with the next number, counted from one, is opened by the
parenthesis of the entry at the same position. -/
def IsAligned (analysis : Analysis) (openings : List Nat) : Prop :=
  ∀ position group, analysis.table.get? position = some group →
    openings[position]? = some (analysis.shiftedStart position group)

def shiftedStarts (analysis : Analysis) : List Nat :=
  GroupTable.shiftedStarts 0 analysis.table.groups

end Analysis

section Counts

variable {pattern : Text} {analysis : Analysis} {openings : List Nat}

end Counts

/-! ## Views -/

namespace NamedExpression

variable {World Compiled : Type}

/-- Without its name the first group takes no number, and the range up to a bracket
ends a class that hides the second group from the analysis. No flag is on, the counts
agree, and again a text is reported under the name of another group. -/
theorem linearEngine_isMisaligned_by_range :
    let pattern : Text := "(?<a>?:x)[+-[](b)]]".toList
    ∃ expression records compiled,
      ofPattern LinearPattern pattern {} = (.ok expression, records) ∧
      (expression.compile linearEngine ()).answer = .ok compiled ∧
      linearEngine.captureSlots compiled = [10].length + 1 ∧
      ¬ expression.analysis.IsAligned [10] ∧
      (expression.captures linearEngine "x+b]]".toList {} ()).answer =
        .ok ⟨[⟨1, some ['b'], some ['a']⟩]⟩ := by
  refine ⟨_, _, _, rfl, rfl, by decide +kernel, ?_, rfl⟩
  intro aligned
  exact absurd (aligned 0 _ rfl) (by decide +kernel)

end NamedExpression

end NamedCapture
