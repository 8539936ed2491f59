import NamedCapture.Lookaround.Node

/-!
Contract: the text of an undemanding node in the dialect without lookaround.

Owns: the grouping that keeps the meaning of a part inside its surroundings.

Does not own: demanding nodes, which have no such text.
-/

namespace NamedCapture.Lookaround

/-- How tightly a node's surroundings bind it. -/
inductive Binding where
  /-- Nothing around it. -/
  | loose
  /-- Inside an alternative. -/
  | branch
  /-- Inside a sequence. -/
  | part
  /-- Under a repetition. -/
  | operand
deriving DecidableEq, Repr

def Binding.strength : Binding → Nat
  | .loose => 0
  | .branch => 1
  | .part => 2
  | .operand => 3

namespace Node

/-- A character that has to be escaped to stand for itself. -/
def needsEscape (value : Char) : Bool :=
  "\\.+*?()|[]\x7b\x7d^$#".toList.contains value

def renderLiteral (value : Char) : Text :=
  if needsEscape value then ['\\', value] else [value]

/-- A text in a group that turns case off, if asked for. -/
def renderCase (caseInsensitive : Bool) (text : Text) : Text :=
  if caseInsensitive then "(?i:".toList ++ text ++ [')'] else text

/-- A text in a group without a number, if asked for. -/
def renderGrouped (grouped : Bool) (text : Text) : Text :=
  if grouped then "(?:".toList ++ text ++ [')'] else text

def renderPlace : Assertion → Text
  | .textStart => "^".toList
  | .textEnd => "$".toList
  | .lineStart _ => "(?m:^)".toList
  | .lineEnd _ => "(?m:$)".toList
  | _ => []

def renderCount (count : Nat) : Text :=
  (toString count).toList

def renderBounds (least : Nat) (most : Option Nat) : Text :=
  match least, most with
  | 0, some 1 => ['?']
  | 0, none => ['*']
  | 1, none => ['+']
  | _, none => ['{'] ++ renderCount least ++ [',', '}']
  | _, some bound =>
      if least = bound then
        ['{'] ++ renderCount least ++ ['}']
      else
        ['{'] ++ renderCount least ++ [','] ++ renderCount bound ++ ['}']

mutual

def render (binding : Binding) : Node → Text
  | .any true => "(?s:.)".toList
  | .any false => ['.']
  | .literal value caseInsensitive =>
      renderCase caseInsensitive (renderLiteral value)
  | .classText text caseInsensitive => renderCase caseInsensitive text
  | .place condition => renderPlace condition
  | .sequence parts =>
      renderGrouped (Binding.branch.strength < binding.strength)
        (renderParts parts)
  | .choice branches =>
      renderGrouped (Binding.loose.strength < binding.strength)
        (renderBranches branches)
  | .group body => ['('] ++ body.render .loose ++ [')']
  | .repetition body least most greedy =>
      renderGrouped (Binding.part.strength < binding.strength)
        (body.render .operand ++ renderBounds least most ++
          (if greedy then [] else ['?']))
  | _ => []

def renderParts : List Node → Text
  | [] => []
  | node :: nodes => node.render .part ++ renderParts nodes

def renderBranches : List Node → Text
  | [] => []
  | [node] => node.render .branch
  | node :: nodes => node.render .branch ++ ['|'] ++ renderBranches nodes

end

/-- The text of nodes that are searched for together. -/
def renderTogether (nodes : List Node) : Text :=
  nodes.flatMap (render .branch)

end Node

end NamedCapture.Lookaround
