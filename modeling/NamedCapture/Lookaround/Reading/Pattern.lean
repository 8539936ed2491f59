import NamedCapture.Lookaround.Reading.Bracket
import NamedCapture.Lookaround.Reading.Repetition

/-!
Contract: the pattern dialect with lookaround, read into nodes.

Flags set in the middle of a pattern stay in force until the flag group around
them ends; other groups do not restore them. Comment groups are invisible
everywhere outside classes.

Owns: sequences, alternatives, groups, conditionals, the numbering of groups,
and the nesting limit.

Does not own: flags, escapes, classes and repetitions.
-/

namespace NamedCapture.Lookaround

/-- How a group that is still open will be closed. -/
inductive GroupForm where
  /-- The pattern itself. -/
  | whole
  | capture
  /-- A group without a number; the flags hold again after it. -/
  | flagged (restored : Flags)
  | look (behind negated : Bool)
  | atomic
  /-- The condition of a conditional. -/
  | condition
  /-- The branches of a conditional; the flag says whether no text at all stands
  for them. -/
  | conditional (condition : Node) (bare : Bool)
deriving Repr

/-- A group that is still open, with its finished alternatives and the parts of
the last one, each list last first. -/
structure OpenNode where
  form : GroupForm
  branches : List Node
  parts : List Node
deriving Repr

/-- An open group, the groups around it, innermost first, the flags in force,
the number of groups opened and the names given so far, latest first, whether a
backreference was written as a number, and the text that follows. -/
structure ReadState where
  current : OpenNode
  outer : List OpenNode
  flags : Flags
  groups : Nat
  names : List (Text × Nat)
  usesNumbers : Bool
  rest : Text
deriving Repr

/-- The node of a conditional. Its branches are the alternatives of a node, the
first of them for when the condition holds; a backreference as condition asks
whether the group took part. -/
def Node.ofBranches (condition branches : Node) : Node :=
  let test :=
    match condition with
    | .backreference target => .tookPart target
    | _ => condition
  let (consequence, alternative) : Node × Node :=
    match branches with
    | .choice [first, second] => (first, second)
    | .choice (first :: others) => (first, .choice others)
    | _ => (branches, .empty)
  match consequence, alternative with
  | .empty, .empty => test
  | _, _ => .conditional test consequence alternative

namespace OpenNode

def inSequence : List Node → Node
  | [] => .empty
  | [node] => node
  | nodes => .sequence nodes

def sequence (group : OpenNode) : Node :=
  inSequence group.parts.reverse

def body (group : OpenNode) : Node :=
  match group.branches with
  | [] => group.sequence
  | branches => .choice (group.sequence :: branches).reverse

/-- The bodies of a lookaround. Behind a place the alternatives of a body whose
size varies are looked for one by one. -/
def lookBodies (behind : Bool) (body : Node) : List Node :=
  match body with
  | .choice branches =>
      if behind && !body.isConstant then branches else [body]
  | _ => [body]

def close (group : OpenNode) : Node :=
  match group.form with
  | .whole => group.body
  | .capture => .group group.body
  | .flagged _ => group.body
  | .look behind negated => .look behind negated (lookBodies behind group.body)
  | .atomic => .atomic group.body
  | .condition => group.body
  | .conditional condition _ => .ofBranches condition group.body

/-- Whether nothing stands for the branches of a conditional whose condition is
no reference to a group. -/
def lacksBranches (group : OpenNode) : Bool :=
  match group.form with
  | .conditional (.backreference _) _ => false
  | .conditional _ bare => bare
  | _ => false

end OpenNode

namespace ReadState

/-- The greatest depth of nesting a pattern may have, plus one. -/
def nestingLimit : Nat := 64

/-- Add a node and the repetition that follows it to the open group. An empty
node leaves no trace. -/
def add
    (state : ReadState)
    (node : Node)
    (text : Text) :
    Except String ReadState := do
  let (repeated, rest) ← readRepetition state.flags node text
  let parts :=
    match repeated with
    | .empty => state.current.parts
    | _ => repeated :: state.current.parts
  .ok { state with current := { state.current with parts }, rest }

def openGroup
    (state : ReadState)
    (form : GroupForm)
    (rest : Text) :
    ReadState :=
  { state with
    current := ⟨form, [], []⟩
    outer := state.current :: state.outer
    rest }

def openCapture (state : ReadState) (rest : Text) : ReadState :=
  { state.openGroup .capture rest with groups := state.groups + 1 }

def openNamed (state : ReadState) (text : Text) : Except String ReadState :=
  match readName? false '>' text with
  | none => .error "a group name is malformed"
  | some (name, rest) =>
      let opened := state.openCapture rest
      .ok { opened with names := (name, opened.groups) :: opened.names }

/-- A backreference to the group of a name, or to the group that the name as a
number refers to. -/
def resolve (state : ReadState) (name : Text) : Except String Node :=
  match state.names.lookup name with
  | some group => .ok (.backreference group)
  | none =>
      match numberedGroup? state.groups name with
      | some group => .ok (.backreference group)
      | none => .error "a group name is unknown"

/-- Go on with the branches of a conditional at a text. -/
def openBranches
    (state : ReadState)
    (condition : Node)
    (rest : Text) :
    ReadState :=
  { state with
    current := ⟨.conditional condition (rest.head? == some ')'), [], []⟩
    rest }

/-- Open a conditional at the text after the parenthesis of its condition, which
is a number, a name in angle brackets or quotes, or a pattern. -/
def openConditional (state : ReadState) (text : Text) : Except String ReadState :=
  let named (closing : Char) (name : Text) : Except String (Node × Text) :=
    match readName? true closing name with
    | none => .error "a group name is malformed"
    | some (name, rest) => (state.resolve name).map (·, rest)
  let reference? : Option (Except String (Node × Text)) :=
    match text with
    | '<' :: name => some (named '>' name)
    | '\'' :: name => some (named '\'' name)
    | character :: _ =>
        if character.isDigit then
          match readCount? text with
          | some (number, rest) => some (.ok (.backreference number, rest))
          | none => some (.error "a group number is too great")
        else
          none
    | [] => none
  match reference? with
  | none => .ok (state.openGroup .condition text)
  | some (.error error) => .error error
  | some (.ok (condition, rest)) => do
      let usesNumbers :=
        state.usesNumbers || text.head?.any Char.isDigit
      match ← state.flags.skip rest with
      | ')' :: remaining =>
          let opened := state.openGroup .condition remaining
          .ok
            { opened.openBranches condition remaining with usesNumbers }
      | _ => .error "a condition is not closed"

/-- Open a group, set flags, or refer to a group, at the text after an opening
parenthesis. -/
def openAt (state : ReadState) (text : Text) : Except String ReadState := do
  if nestingLimit ≤ state.outer.length + 1 then
    .error "groups are nested too deeply"
  else
    match ← state.flags.skip text with
    | '?' :: '=' :: rest => .ok (state.openGroup (.look false false) rest)
    | '?' :: '!' :: rest => .ok (state.openGroup (.look false true) rest)
    | '?' :: '<' :: '=' :: rest => .ok (state.openGroup (.look true false) rest)
    | '?' :: '<' :: '!' :: rest => .ok (state.openGroup (.look true true) rest)
    | '?' :: '<' :: rest => state.openNamed rest
    | '?' :: 'P' :: '<' :: rest => state.openNamed rest
    | '?' :: 'P' :: '=' :: rest =>
        match readName? false ')' rest with
        | none => .error "a group name is malformed"
        | some (name, remaining) => do
            state.add (← state.resolve name) remaining
    | '?' :: '>' :: rest => .ok (state.openGroup .atomic rest)
    | '?' :: '(' :: rest => state.openConditional rest
    | '?' :: rest =>
        match ←
            state.flags.applyList true rest.length (rest.length + 1) rest with
        | (flags, ':' :: remaining) =>
            .ok
              { state.openGroup (.flagged state.flags) remaining with flags }
        | (flags, _ :: remaining) =>
            ({ state with flags } : ReadState).add .empty remaining
        | (_, []) => .error "a flag list is not closed"
    | rest => .ok (state.openCapture rest)

/-- Whether the open group may end here: numbered backreferences and names do
not go together, though a group with alternatives is let through. -/
def mayClose (state : ReadState) : Bool :=
  !state.current.branches.isEmpty || !state.usesNumbers || state.names.isEmpty

/-- Close the open group before a text. After a condition the branches follow
in its stead. -/
def closeGroup (state : ReadState) (rest : Text) : Except String ReadState :=
  match state.outer with
  | [] => .error "a closing parenthesis has no partner"
  | around :: outer =>
      if !state.mayClose then
        .error "numbered backreferences and names do not go together"
      else if state.current.lacksBranches then
        .error "a conditional has no branches"
      else
        match state.current.form with
        | .condition => .ok (state.openBranches state.current.body rest)
        | form =>
            let flags :=
              match form with
              | .flagged restored => restored
              | _ => state.flags
            ({ state with current := around, outer, flags } : ReadState).add
              state.current.close rest

def alternate (state : ReadState) (rest : Text) : ReadState :=
  { state with
    current :=
      { state.current with
        branches := state.current.sequence :: state.current.branches
        parts := [] }
    rest }

def addEscape
    (state : ReadState)
    (escape : Escape)
    (rest : Text) :
    Except String ReadState :=
  match escape with
  | .node node => state.add node rest
  | .groupNumber number =>
      ({ state with usesNumbers := true } : ReadState).add
        (.backreference number) rest
  | .groupName name => do state.add (← state.resolve name) rest

/-- Read one piece of a pattern that starts with a visible character. -/
def step
    (state : ReadState)
    (character : Char)
    (rest : Text) :
    Except String ReadState :=
  let flags := state.flags
  match character with
  | '(' => state.openAt rest
  | ')' => state.closeGroup rest
  | '|' => .ok (state.alternate rest)
  | '?' | '*' | '+' => .error "a repetition has nothing to repeat"
  | '.' => state.add (.any flags.dotMatchesNewLine) rest
  | '^' =>
      state.add
        (.place (if flags.multiLine then .lineStart false else .textStart)) rest
  | '$' =>
      state.add
        (.place (if flags.multiLine then .lineEnd false else .textEnd)) rest
  | '[' => do
      let (text, remaining) ← readClass flags rest
      state.add (.classText text flags.caseInsensitive) remaining
  | '\\' => do
      let (escape, remaining) ← readEscape flags false rest
      state.addEscape escape remaining
  | _ => state.add (.literal character flags.caseInsensitive) rest

/-- Read a pattern to its end. Every piece takes at least one character, so the
length of the text bounds their number. -/
def run : Nat → ReadState → Except String ReadState
  | 0, state => .ok state
  | count + 1, state =>
      match state.flags.skip state.rest with
      | .error error => .error error
      | .ok [] => .ok state
      | .ok (character :: rest) =>
          match state.step character rest with
          | .error error => .error error
          | .ok following => run count following

end ReadState

def Node.read (pattern : Text) : Except String Node :=
  match ReadState.run (pattern.length + 1)
      ⟨⟨.whole, [], []⟩, [], {}, 0, [], false, pattern⟩ with
  | .error error => .error error
  | .ok state =>
      if !state.outer.isEmpty then .error "a group is not closed"
      else if !state.mayClose then
        .error "numbered backreferences and names do not go together"
      else
        .ok state.current.body

end NamedCapture.Lookaround
