/-!
Contract: the defects of a pattern's group structure and their wording.

Owns:
- the two kinds of defect and the exact text of each;
- the byte offset of the parenthesis at fault.

Does not own: when a defect arises, which the scan and the analysis decide.
-/

namespace NamedCapture

/-- What is wrong with a group, and the byte offset of the parenthesis at
fault. -/
structure Defect where
  description : String
  position : Nat
deriving DecidableEq, Repr

/-- The description followed by its zero-based byte offset. -/
def Defect.message (defect : Defect) : String :=
  s!"{defect.description} at byte {defect.position} (zero-based)"

/-- A pattern whose group structure cannot be tabulated. -/
inductive PatternError where
  /-- An opening parenthesis is never closed, or a closing one has no partner. -/
  | unbalancedParenthesis (defect : Defect)
  /-- A capturing group is opened inside another group. -/
  | nestedCapture (defect : Defect)
deriving DecidableEq, Repr

namespace PatternError

def defect : PatternError → Defect
  | .unbalancedParenthesis defect => defect
  | .nestedCapture defect => defect

def message (error : PatternError) : String :=
  error.defect.message

/-- The opening parenthesis at an offset has no closing partner. -/
def unclosedGroup (position : Nat) : PatternError :=
  .unbalancedParenthesis ⟨"unclosed group '(' in pattern", position⟩

/-- The closing parenthesis at an offset has no opening partner. -/
def unmatchedClose (position : Nat) : PatternError :=
  .unbalancedParenthesis
    ⟨"unmatched closing parenthesis ')' in pattern", position⟩

/-- The parenthesis at an offset opens a capturing group inside another
group. -/
def captureInsideGroup (position : Nat) : PatternError :=
  .nestedCapture
    ⟨"capturing group nested inside another group is not supported", position⟩

end PatternError

end NamedCapture
