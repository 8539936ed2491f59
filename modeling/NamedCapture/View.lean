import NamedCapture.Text

/-!
Contract: the captures of one match, addressed by index or by name.

Owns: a group's result, the two kinds of key, and the rendered form. The first
group of a name answers for it, even when it took no part in the match.

Does not own: where the captured text comes from.
-/

namespace NamedCapture

/-- What one group captured. The index counts from one, as an engine numbers
groups; the text is absent when the group took no part. -/
structure GroupResult where
  groupIndex : Nat
  matchingText : Option Text
  groupName : Option Text
deriving DecidableEq, Repr

namespace GroupResult

def isNamed (result : GroupResult) : Bool :=
  result.groupName.isSome

def render (result : GroupResult) : String :=
  let name :=
    match result.groupName with
    | some name => s!" aka \"{name.render}\""
    | none => ""
  let text := Text.render (result.matchingText.getD [])
  s!"Group {result.groupIndex}{name}: {text}"

end GroupResult

/-- What a capture is asked for by. -/
inductive GroupKey where
  /-- The zero-based position among the capturing groups. -/
  | index (position : Nat)
  /-- The name of a group. -/
  | name (name : Text)
deriving DecidableEq, Repr

/-- The captures of one match in the order of their numbers. The default is the
view of a subject that does not match. -/
structure View where
  results : List GroupResult := []
deriving DecidableEq, Repr, Inhabited

namespace View

def empty : View :=
  ⟨[]⟩

def result? (view : View) : GroupKey → Option GroupResult
  | .index position => view.results[position]?
  | .name name => view.results.find? (·.groupName = some name)

def get? (view : View) (key : GroupKey) : Option Text :=
  (view.result? key).bind GroupResult.matchingText

def size (view : View) : Nat :=
  view.results.length

def isEmpty (view : View) : Bool :=
  view.results.isEmpty

/-- The names of the named groups in order, duplicates kept. -/
def names (view : View) : List Text :=
  view.results.filterMap GroupResult.groupName

def lines (view : View) : List String :=
  view.results.map GroupResult.render

def render (view : View) : String :=
  "\n".intercalate view.lines

end View

end NamedCapture
