import NamedCapture.Text

/-!
Contract: the capturing groups of a pattern in the order of their numbers.

Owns: a group's definition, look-up by index, and look-up by name, where the
first group of a name wins.

Does not own: how the groups were found.
-/

namespace NamedCapture

/-- A capturing group of a pattern. The index counts from zero; the content is
the group's source text with its parentheses and any name. -/
structure GroupDefinition where
  index : Nat
  content : Text
  name : Option Text
  span : Span
deriving DecidableEq, Repr

def GroupDefinition.isNamed (group : GroupDefinition) : Bool :=
  group.name.isSome

/-- The capturing groups of a pattern, left to right. -/
structure GroupTable where
  groups : List GroupDefinition
deriving DecidableEq, Repr

namespace GroupTable

def size (table : GroupTable) : Nat :=
  table.groups.length

def isEmpty (table : GroupTable) : Bool :=
  table.groups.isEmpty

def get? (table : GroupTable) (index : Nat) : Option GroupDefinition :=
  table.groups[index]?

def position? (table : GroupTable) (name : Text) : Option Nat :=
  table.groups.findIdx? (·.name = some name)

/-- The names of the named groups in order, duplicates kept. -/
def names (table : GroupTable) : List Text :=
  table.groups.filterMap GroupDefinition.name

end GroupTable

end NamedCapture
