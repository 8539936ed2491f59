import NamedCapture.Expression.Basic
import NamedCapture.Expression.Reading.Bracket

/-!
Contract: the pattern dialect without lookaround, read into expressions.

The dialect has no lookaround, no backreferences and no atomic groups; each is
refused. Flags set in the middle of a group stay in force to its end, across
alternatives.

Owns: sequences, alternatives, groups, repetitions, the numbering of captures,
and the nesting limit.

Does not own: classes and escapes.
-/

namespace NamedCapture

/-- A piece of a pattern, its depth of nesting, and whether it may be
repeated. -/
structure PatternItem where
  expression : Expression
  height : Nat
  isRepeatable : Bool
deriving DecidableEq, Repr

/-- A group that is still open: the flags that hold again after it, its capture
number if it captures, its finished alternatives and the items of the last one,
each list last first. -/
structure OpenGroup where
  restored : PatternFlags
  capture : Option Nat
  alternatives : List PatternItem
  items : List PatternItem
deriving DecidableEq, Repr

/-- An open group, the groups around it, innermost first, the flags in force,
the number of captures opened and the names given so far, and the text that
follows. The outermost group is the pattern itself. -/
structure PatternState where
  current : OpenGroup
  outer : List OpenGroup
  flags : PatternFlags
  captures : Nat
  names : List Text
  rest : Text
deriving DecidableEq, Repr

namespace PatternItem

def leaf (expression : Expression) : PatternItem :=
  ⟨expression, 0, true⟩

def greatestHeight (items : List PatternItem) : Nat :=
  items.foldl (fun height item => max height item.height) 0

/-- Several items as one, one level higher than any of them; a single item
stays as it is. -/
def gather
    (combine : List Expression → Expression)
    (items : List PatternItem) :
    PatternItem :=
  match items with
  | [] => leaf .empty
  | [item] => { item with isRepeatable := true }
  | _ =>
      ⟨combine (items.map PatternItem.expression), greatestHeight items + 1, true⟩

end PatternItem

namespace OpenGroup

def sequence (group : OpenGroup) : PatternItem :=
  .gather .inSequence group.items.reverse

def body (group : OpenGroup) : PatternItem :=
  .gather .inOrder (group.sequence :: group.alternatives).reverse

/-- The closed group as an item of the group around it. -/
def close (group : OpenGroup) : PatternItem :=
  let body := group.body
  let expression :=
    match group.capture with
    | some index => .capture index body.expression
    | none => body.expression
  ⟨expression, body.height + 1, true⟩

end OpenGroup

namespace PatternState

/-- The greatest depth of nesting a pattern may have. -/
def nestingLimit : Nat := 250

def countLimit : Nat := 0x100000000

/-- Add an item to the open group and go on at a text. -/
def add
    (state : PatternState)
    (item : PatternItem)
    (rest : Text) :
    PatternState :=
  { state with
    current := { state.current with items := item :: state.current.items }
    rest }

def openGroup
    (state : PatternState)
    (capture : Option Nat)
    (flags : PatternFlags)
    (rest : Text) :
    PatternState :=
  { state with
    current := ⟨state.flags, capture, [], []⟩
    outer := state.current :: state.outer
    flags
    rest }

def openCapture (state : PatternState) (rest : Text) : PatternState :=
  let index := state.captures + 1
  { state.openGroup (some index) state.flags rest with captures := index }

/-- Whether a character may stand in a group name, at its start or later. -/
def isNameCharacter (first : Bool) (character : Char) : Bool :=
  if first then
    character == '_' || Unicode.isAlphabetic character
  else
    character == '_' || character == '.' || character == '[' ||
      character == ']' || Unicode.isAlphanumeric character

/-- Open a capturing group at the name in a text; no name may be given
twice. -/
def openNamed
    (state : PatternState)
    (text : Text) :
    Except String PatternState :=
  let name := text.takeWhile (· != '>')
  match text.drop name.length with
  | [] => .error "a group name is not closed"
  | _ :: rest =>
      match name with
      | [] => .error "a group name is empty"
      | first :: later =>
          if !isNameCharacter true first ||
              !later.all (isNameCharacter false) then
            .error "a group name has a character it may not have"
          else if name ∈ state.names then
            .error "a group name is given twice"
          else
            .ok { state.openCapture rest with names := name :: state.names }

/-- Open a group, or set flags, at the text after an opening parenthesis. -/
def openAt (state : PatternState) (text : Text) : Except String PatternState :=
  match state.flags.skipBlank text with
  | '?' :: '=' :: _ => .error "lookaround is not supported"
  | '?' :: '!' :: _ => .error "lookaround is not supported"
  | '?' :: '<' :: '=' :: _ => .error "lookaround is not supported"
  | '?' :: '<' :: '!' :: _ => .error "lookaround is not supported"
  | '?' :: 'P' :: '<' :: rest => state.openNamed rest
  | '?' :: '<' :: rest => state.openNamed rest
  | '?' :: rest =>
      match state.flags.applyList [] rest with
      | .error error => .error error
      | .ok (flags, _, ':' :: remaining) =>
          .ok (state.openGroup none flags remaining)
      | .ok (flags, isEmpty, _ :: remaining) =>
          if isEmpty then .error "a flag list is empty"
          else
            .ok { state.add ⟨.empty, 0, false⟩ remaining with flags }
      | .ok (_, _, []) => .error "a flag list is not closed"
  | rest => .ok (state.openCapture rest)

def closeGroup
    (state : PatternState)
    (rest : Text) :
    Except String PatternState :=
  match state.outer with
  | [] => .error "a closing parenthesis has no partner"
  | around :: outer =>
      .ok
        { state with
          current :=
            { around with items := state.current.close :: around.items }
          outer
          flags := state.current.restored
          rest }

def alternate (state : PatternState) (rest : Text) : PatternState :=
  { state with
    current :=
      { state.current with
        alternatives := state.current.sequence :: state.current.alternatives
        items := [] }
    rest }

/-- Repeat the last item. A question mark right after the operator makes it
prefer fewer copies, or more when the greed flag is on. -/
def repeatLast
    (state : PatternState)
    (least : Nat)
    (most : Option Nat)
    (text : Text) :
    Except String PatternState :=
  match state.current.items with
  | [] => .error "a repetition has nothing to repeat"
  | item :: items =>
      if item.isRepeatable then
        let (lazy, rest) : Bool × Text :=
          match text with
          | '?' :: rest => (true, rest)
          | _ => (false, text)
        let repeated :=
          item.expression.repeated least most (lazy == state.flags.swapGreed)
        .ok
          { state with
            current :=
              { state.current with
                items := ⟨repeated, item.height + 1, true⟩ :: items }
            rest }
      else
        .error "a repetition has nothing to repeat"

/-- A decimal number with blanks around it, and the text after it. -/
def readCount
    (flags : PatternFlags)
    (text : Text) :
    Except String (Nat × Text) :=
  let (digits, rest) :=
    flags.spanVisible Char.isDigit (text.dropWhile Unicode.isWhiteSpace)
  let count :=
    digits.foldl (fun value digit => 10 * value + (digit.toNat - '0'.toNat)) 0
  if digits.isEmpty then .error "a repetition lacks a number"
  else if countLimit ≤ count then .error "a repetition has too great a number"
  else .ok (count, rest.dropWhile Unicode.isWhiteSpace)

/-- The bounds written after an opening brace, and the text after its closing
brace. -/
def readBounds
    (flags : PatternFlags)
    (text : Text) :
    Except String (Nat × Option Nat × Text) := do
  let (least, afterLeast) ← readCount flags (flags.skipBlank text)
  match afterLeast with
  | '}' :: rest => .ok (least, some least, rest)
  | ',' :: afterComma =>
      match flags.skipBlank afterComma with
      | '}' :: rest => .ok (least, none, rest)
      | bound => do
          let (most, afterMost) ← readCount flags bound
          match afterMost with
          | '}' :: rest =>
              if least ≤ most then .ok (least, some most, rest)
              else .error "a repetition has reversed bounds"
          | _ => .error "a repetition is not closed"
  | _ => .error "a repetition is not closed"

/-- The expression of a single character, with its case variants when case does
not matter. -/
def literal (flags : PatternFlags) (character : Char) : Expression :=
  if flags.caseInsensitive then
    match CharSet.caseVariants flags.unicode character with
    | [_] => .character character
    | variants => .set (.ofList variants)
  else
    .character character

/-- The expression of a dot. Without Unicode it could match part of a
character. -/
def dot (flags : PatternFlags) : Except String Expression :=
  if !flags.unicode then .error "a dot could match part of a character"
  else if flags.dotMatchesNewLine then .ok (.set (.complement .empty))
  else if flags.crlf then .ok (.set (.complement (.ofList ['\r', '\n'])))
  else .ok (.set (.complement (.only '\n')))

def ofPrimitive (flags : PatternFlags) : Primitive → Expression
  | .literal character => literal flags character
  | .set set => .set set
  | .assertion assertion => .assertion assertion

/-- Read one piece of a pattern that starts with a visible character. -/
def step
    (state : PatternState)
    (character : Char)
    (rest : Text) :
    Except String PatternState :=
  let flags := state.flags
  match character with
  | '(' => state.openAt rest
  | ')' => state.closeGroup rest
  | '|' => .ok (state.alternate rest)
  | '?' => state.repeatLast 0 (some 1) rest
  | '*' => state.repeatLast 0 none rest
  | '+' => state.repeatLast 1 none rest
  | '{' => do
      let (least, most, remaining) ← readBounds flags rest
      state.repeatLast least most (flags.skipBlank remaining)
  | '[' => do
      let (item, remaining) ← NestedSet.readBracket flags rest
      .ok (state.add ⟨.set item.set, item.height, true⟩ remaining)
  | '.' => do
      .ok (state.add (.leaf (← dot flags)) rest)
  | '^' =>
      let place :=
        if flags.multiLine then .lineStart flags.crlf else .textStart
      .ok (state.add (.leaf (.assertion place)) rest)
  | '$' =>
      let place :=
        if flags.multiLine then .lineEnd flags.crlf else .textEnd
      .ok (state.add (.leaf (.assertion place)) rest)
  | '\\' => do
      let (primitive, remaining) ← Primitive.readEscape flags rest
      .ok (state.add (.leaf (ofPrimitive flags primitive)) remaining)
  | _ => .ok (state.add (.leaf (literal flags character)) rest)

/-- Read a pattern to its end. Every piece takes at least one character, so the
length of the text bounds their number. -/
def run : Nat → PatternState → Except String PatternState
  | 0, state => .ok state
  | count + 1, state =>
      match state.flags.skipBlank state.rest with
      | [] => .ok state
      | character :: rest =>
          match state.step character rest with
          | .error error => .error error
          | .ok following => run count following

end PatternState

def Expression.read
    (flags : PatternFlags)
    (pattern : Text) :
    Except String Expression :=
  match PatternState.run pattern.length
      ⟨⟨flags, none, [], []⟩, [], flags, 0, [], pattern⟩ with
  | .error error => .error error
  | .ok state =>
      if !state.outer.isEmpty then .error "a group is not closed"
      else if PatternState.nestingLimit < state.current.body.height then
        .error "groups are nested too deeply"
      else
        .ok state.current.body.expression

end NamedCapture
