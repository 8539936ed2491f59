import NamedCapture.Expression.Reading.Escape

/-!
Contract: character classes in brackets.

Owns: negation, ranges, nested classes and their depth, set operators, the
classes named between colons, the places where a hyphen or a closing bracket is
literal, and the effect of the case flag.

Does not own: what a class matches in a subject.
-/

namespace NamedCapture

/-- An operator between two parts of a class. -/
inductive SetOperator where
  | intersection
  | difference
  | symmetricDifference
deriving DecidableEq, Repr

/-- A set and the depth of nesting of the text that describes it. -/
structure NestedSet where
  set : CharSet
  height : Nat
deriving DecidableEq, Repr

/-- A class that is still open: whether it is negated, the part before the last
operator, and the items since then, last first. -/
structure OpenBracket where
  negated : Bool
  pending : Option (SetOperator × NestedSet)
  items : List NestedSet
deriving DecidableEq, Repr

/-- An open class, the classes around it, innermost first, and the text that
follows. -/
structure BracketState where
  current : OpenBracket
  outer : List OpenBracket
  rest : Text
deriving DecidableEq, Repr

namespace NestedSet

def leaf (set : CharSet) : NestedSet :=
  ⟨set, 0⟩

/-- The union of items, one level higher than any of them; a single item stays
as it is. -/
def gather : List NestedSet → NestedSet
  | [] => leaf .empty
  | [item] => item
  | items =>
      { set := items.foldr (fun item set => .union set item.set) .empty
        height := (items.map NestedSet.height).foldl max 0 + 1 }

end NestedSet

namespace OpenBracket

def add (bracket : OpenBracket) (item : NestedSet) : OpenBracket :=
  { bracket with items := item :: bracket.items }

/-- A set closed under case variants when case does not matter. -/
def ignoringCase (flags : PatternFlags) (set : CharSet) : CharSet :=
  if flags.caseInsensitive then .caseClosure flags.unicode set else set

/-- The set so far, with the last operator applied. -/
def total (flags : PatternFlags) (bracket : OpenBracket) : NestedSet :=
  let items := NestedSet.gather bracket.items
  match bracket.pending with
  | none => items
  | some (operator, before) =>
      let left := ignoringCase flags before.set
      let right := ignoringCase flags items.set
      { set :=
          match operator with
          | .intersection => .intersection left right
          | .difference => .difference left right
          | .symmetricDifference => .symmetricDifference left right
        height := max before.height items.height + 1 }

/-- A set with case and negation applied, in that order. Without Unicode it
must be within ASCII, because it could match part of a character otherwise. -/
def settle
    (flags : PatternFlags)
    (negated : Bool)
    (set : CharSet) :
    Except String CharSet :=
  let folded := ignoringCase flags set
  let settled := if negated then .complement folded else folded
  if flags.unicode || settled.isAsciiOnly then .ok settled
  else .error "a class could match part of a character"

def operate
    (flags : PatternFlags)
    (bracket : OpenBracket)
    (operator : SetOperator) :
    OpenBracket :=
  { bracket with
    pending := some (operator, bracket.total flags)
    items := [] }

end OpenBracket

namespace BracketState

def namedClass? (name : String) : Option CharSet :=
  let ranges? : Option (List (Char × Char)) :=
    match name with
    | "alnum" => some [('0', '9'), ('A', 'Z'), ('a', 'z')]
    | "alpha" => some [('A', 'Z'), ('a', 'z')]
    | "ascii" => some [('\x00', '\x7F')]
    | "blank" => some [('\t', '\t'), (' ', ' ')]
    | "cntrl" => some [('\x00', '\x1F'), ('\x7F', '\x7F')]
    | "digit" => some [('0', '9')]
    | "graph" => some [('!', '~')]
    | "lower" => some [('a', 'z')]
    | "print" => some [(' ', '~')]
    | "punct" => some [('!', '/'), (':', '@'), ('[', '\x60'), ('\x7B', '~')]
    | "space" => some [('\t', '\r'), (' ', ' ')]
    | "upper" => some [('A', 'Z')]
    | "word" => some [('0', '9'), ('A', 'Z'), ('_', '_'), ('a', 'z')]
    | "xdigit" => some [('0', '9'), ('A', 'F'), ('a', 'f')]
    | _ => none
  ranges?.map CharSet.ofRanges

/-- The class named between colons in the text after an opening bracket,
whether it is negated, and the text after its closing bracket. -/
def readNamed? (text : Text) : Option (CharSet × Bool × Text) :=
  match text with
  | ':' :: afterColon =>
      let (negated, body) : Bool × Text :=
        match afterColon with
        | '^' :: rest => (true, rest)
        | _ => (false, afterColon)
      let name := body.takeWhile (· != ':')
      match body.drop name.length with
      | ':' :: ']' :: remaining =>
          (namedClass? (String.ofList name)).map (·, negated, remaining)
      | _ => none
  | _ => none

/-- The hyphens at the start of a class, which are literal, as items, and the
text after them. -/
def readHyphens (flags : PatternFlags) : Nat → Text → List NestedSet × Text
  | count + 1, '-' :: rest =>
      let (items, remaining) := readHyphens flags count (flags.skipBlank rest)
      (.leaf (.only '-') :: items, remaining)
  | _, text => ([], text)

/-- Open a class at the text after its opening bracket. Hyphens at the start
are literal; if there are none, a closing bracket there is literal. -/
def openAt
    (flags : PatternFlags)
    (text : Text) :
    Except String (OpenBracket × Text) :=
  let unclosed : Except String (OpenBracket × Text) :=
    .error "a class is not closed"
  let visible := flags.skipBlank text
  let (negated, body) : Bool × Text :=
    match visible with
    | '^' :: rest => (true, flags.skipBlank rest)
    | _ => (false, visible)
  match body with
  | [] => unclosed
  | ']' :: rest =>
      match flags.skipBlank rest with
      | [] => unclosed
      | remaining => .ok (⟨negated, none, [.leaf (.only ']')]⟩, remaining)
  | _ =>
      match readHyphens flags body.length body with
      | (_, []) => unclosed
      | (hyphens, remaining) => .ok (⟨negated, none, hyphens⟩, remaining)

def readItem
    (flags : PatternFlags) :
    Text → Except String (Primitive × Text)
  | [] => .error "a class is not closed"
  | '\\' :: rest => Primitive.readEscape flags rest
  | character :: rest => .ok (.literal character, rest)

/-- The character an end of a range stands for. Without Unicode it must be
ASCII. -/
def literalOf
    (flags : PatternFlags) :
    Primitive → Except String Char
  | .literal character =>
      if flags.unicode || character.toNat < 128 then .ok character
      else .error "a class holds a character outside ASCII"
  | _ => .error "an end of a range is not a character"

def membersOf
    (flags : PatternFlags) :
    Primitive → Except String CharSet
  | .set set => .ok set
  | .assertion _ => .error "a class holds a condition"
  | .literal character =>
      (literalOf flags (.literal character)).map CharSet.only

/-- The visible character that decides whether a hyphen before it makes a
range. A number sign is passed over once while blanks are ignored. -/
def peekVisible? (flags : PatternFlags) (text : Text) : Option Char :=
  if flags.ignoreSpace then
    match text.dropWhile Unicode.isWhiteSpace with
    | '#' :: rest => (rest.dropWhile Unicode.isWhiteSpace).head?
    | visible => visible.head?
  else
    text.head?

/-- One item or range of a class, and the text after it. A hyphen makes a range
unless a closing bracket or another hyphen follows it. -/
def readRange
    (flags : PatternFlags)
    (text : Text) :
    Except String (CharSet × Text) := do
  let (first, afterFirst) ← readItem flags text
  match flags.skipBlank afterFirst with
  | [] => .error "a class is not closed"
  | '-' :: rest =>
      let following := peekVisible? flags rest
      if following = some ']' ∨ following = some '-' then
        .ok (← membersOf flags first, '-' :: rest)
      else
        let (last, remaining) ← readItem flags (flags.skipBlank rest)
        let low ← literalOf flags first
        let high ← literalOf flags last
        if low ≤ high then
          .ok (.range low high, remaining)
        else
          .error "a range is reversed"
  | remaining => .ok (← membersOf flags first, remaining)

/-- Close the innermost class, which is one level higher than its description:
either it is an item of the class around it, or the whole class is read. -/
def closeCurrent
    (flags : PatternFlags)
    (state : BracketState)
    (rest : Text) :
    Except String (BracketState ⊕ (NestedSet × Text)) := do
  let total := state.current.total flags
  let set ← OpenBracket.settle flags state.current.negated total.set
  let closed : NestedSet := ⟨set, total.height + 1⟩
  match state.outer with
  | [] => .ok (.inr (closed, rest))
  | around :: outer => .ok (.inl ⟨around.add closed, outer, rest⟩)

def step
    (flags : PatternFlags)
    (state : BracketState) :
    Except String (BracketState ⊕ (NestedSet × Text)) :=
  let operate (operator : SetOperator) (rest : Text) :
      Except String (BracketState ⊕ (NestedSet × Text)) :=
    .ok (.inl
      { state with current := state.current.operate flags operator, rest })
  let add (set : CharSet) (rest : Text) : BracketState :=
    { state with current := state.current.add (.leaf set), rest }
  match flags.skipBlank state.rest with
  | [] => .error "a class is not closed"
  | ']' :: rest => state.closeCurrent flags rest
  | '&' :: '&' :: rest => operate .intersection rest
  | '-' :: '-' :: rest => operate .difference rest
  | '~' :: '~' :: rest => operate .symmetricDifference rest
  | '[' :: rest =>
      match readNamed? rest with
      | some (members, negated, remaining) => do
          let set ← OpenBracket.settle flags negated members
          .ok (.inl (add set remaining))
      | none => do
          let (inner, remaining) ← openAt flags rest
          .ok (.inl ⟨inner, state.current :: state.outer, remaining⟩)
  | text => do
      let (set, remaining) ← readRange flags text
      .ok (.inl (add set remaining))

/-- Read the parts of a class until it is closed. Every part takes at least one
character, so the length of the text bounds their number. -/
def run
    (flags : PatternFlags) :
    Nat → BracketState → Except String (NestedSet × Text)
  | 0, _ => .error "a class is not closed"
  | count + 1, state =>
      match state.step flags with
      | .error error => .error error
      | .ok (.inr finished) => .ok finished
      | .ok (.inl following) => run flags count following

end BracketState

/-- Read a class from the text after its opening bracket; yields the class and
the text after its closing bracket. -/
def NestedSet.readBracket
    (flags : PatternFlags)
    (text : Text) :
    Except String (NestedSet × Text) :=
  match BracketState.openAt flags text with
  | .error error => .error error
  | .ok (current, rest) =>
      BracketState.run flags (rest.length + 1) ⟨current, [], rest⟩

end NamedCapture
