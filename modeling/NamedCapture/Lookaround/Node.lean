import NamedCapture.Expression.Assertion
import NamedCapture.Text

/-!
Contract: patterns with lookaround, backreferences, conditionals and atomic
groups.

Sizes count characters. A part of a pattern is demanding when it needs a
backtracking machine; every other part can be left to a linear search.

Owns: the nodes, their least size, whether their size is constant, the groups
they open, whether their references to groups are sound, and which are
demanding.

Does not own: notation, or search.
-/

namespace NamedCapture.Lookaround

/-- A part of a pattern. -/
inductive Node where
  | empty
  /-- Any character; the flag says whether a line feed is one. -/
  | any (newLine : Bool)
  | literal (value : Char) (caseInsensitive : Bool)
  /-- The text of a character class, in the dialect without lookaround. -/
  | classText (text : Text) (caseInsensitive : Bool)
  | place (condition : Assertion)
  | sequence (parts : List Node)
  | choice (branches : List Node)
  | group (body : Node)
  /-- What follows (or, when `behind`, precedes) matches one of the bodies or,
  when `negated`, none of them. -/
  | look (behind negated : Bool) (bodies : List Node)
  | repetition
      (body : Node)
      (least : Nat)
      (most : Option Nat)
      (greedy : Bool)
  | backreference (target : Nat)
  /-- The group has taken part in the match. -/
  | tookPart (target : Nat)
  /-- The first way to match the condition is final and the consequence follows
  it; where the condition does not match, the alternative is all. -/
  | conditional (condition consequence alternative : Node)
  /-- The first way to match the body is final. -/
  | atomic (body : Node)
  /-- The match is reported to start here. -/
  | keepOut
  /-- The place where the search started. -/
  | searchStart
deriving Repr

namespace Node

def concernsWords : Assertion → Bool
  | .textStart => false
  | .textEnd => false
  | .lineStart _ => false
  | .lineEnd _ => false
  | .wordBoundary _ => true
  | .notWordBoundary _ => true
  | .wordStart _ => true
  | .wordEnd _ => true
  | .wordStartHalf _ => true
  | .wordEndHalf _ => true

mutual

def leastSize : Node → Nat
  | .empty => 0
  | .any _ => 1
  | .literal _ _ => 1
  | .classText _ _ => 1
  | .place _ => 0
  | .sequence parts => totalLeastSize parts
  | .choice branches => (smallestLeastSize branches).getD 0
  | .group body => body.leastSize
  | .look _ _ _ => 0
  | .repetition body least _ _ => body.leastSize * least
  | .backreference _ => 0
  | .tookPart _ => 0
  | .conditional condition consequence alternative =>
      condition.leastSize + min consequence.leastSize alternative.leastSize
  | .atomic body => body.leastSize
  | .keepOut => 0
  | .searchStart => 0

/-- The least number of characters nodes in a row take. -/
def totalLeastSize : List Node → Nat
  | [] => 0
  | node :: nodes => node.leastSize + totalLeastSize nodes

/-- The least number of characters any of several nodes takes. -/
def smallestLeastSize : List Node → Option Nat
  | [] => none
  | node :: nodes =>
      match smallestLeastSize nodes with
      | none => some node.leastSize
      | some size => some (min node.leastSize size)

end

mutual

/-- Whether a node always takes the same number of characters. -/
def isConstant : Node → Bool
  | .empty => true
  | .any _ => true
  | .literal _ _ => true
  | .classText _ _ => true
  | .place _ => true
  | .sequence parts => areConstant parts
  | .choice branches =>
      areOfSize ((smallestLeastSize branches).getD 0) branches
  | .group body => body.isConstant
  | .look _ _ _ => true
  | .repetition body least most _ => body.isConstant && most == some least
  | .backreference _ => false
  | .tookPart _ => true
  | .conditional condition consequence alternative =>
      condition.isConstant && consequence.isConstant &&
        alternative.isConstant &&
        condition.leastSize + consequence.leastSize == alternative.leastSize
  | .atomic body => body.isConstant
  | .keepOut => true
  | .searchStart => true

/-- Whether every node always takes the same number of characters. -/
def areConstant : List Node → Bool
  | [] => true
  | node :: nodes => node.isConstant && areConstant nodes

/-- Whether every node always takes a given number of characters. -/
def areOfSize (size : Nat) : List Node → Bool
  | [] => true
  | node :: nodes =>
      node.isConstant && node.leastSize == size && areOfSize size nodes

end

mutual

def groupCount : Node → Nat
  | .sequence parts => totalGroupCount parts
  | .choice branches => totalGroupCount branches
  | .group body => body.groupCount + 1
  | .look _ _ bodies => totalGroupCount bodies
  | .repetition body _ _ _ => body.groupCount
  | .conditional condition consequence alternative =>
      condition.groupCount + consequence.groupCount + alternative.groupCount
  | .atomic body => body.groupCount
  | _ => 0

/-- The number of capturing groups in several nodes. -/
def totalGroupCount : List Node → Nat
  | [] => 0
  | node :: nodes => node.groupCount + totalGroupCount nodes

end

mutual

/-- Whether every reference is to a group that was opened before it, when
`opened` groups were opened before the node, the whole pattern included. -/
def isSound (opened : Nat) : Node → Bool
  | .sequence parts => areSound opened parts
  | .choice branches => areSound opened branches
  | .group body => body.isSound (opened + 1)
  | .look _ _ bodies => areSound opened bodies
  | .repetition body _ _ _ => body.isSound opened
  | .backreference target => target < opened
  | .tookPart target => target < opened
  | .conditional condition consequence alternative =>
      condition.isSound opened &&
        consequence.isSound (opened + condition.groupCount) &&
        alternative.isSound
          (opened + condition.groupCount + consequence.groupCount)
  | .atomic body => body.isSound opened
  | _ => true

def areSound (opened : Nat) : List Node → Bool
  | [] => true
  | node :: nodes =>
      node.isSound opened && areSound (opened + node.groupCount) nodes

end

mutual

def isDemanding : Node → Bool
  | .empty => false
  | .any _ => false
  | .literal _ _ => false
  | .classText _ _ => false
  | .place condition => concernsWords condition
  | .sequence parts => anyDemanding parts
  | .choice branches => anyDemanding branches
  | .group body => body.isDemanding
  | .look _ _ _ => true
  | .repetition body _ _ _ => body.isDemanding
  | .backreference _ => true
  | .tookPart _ => true
  | .conditional _ _ _ => true
  | .atomic _ => true
  | .keepOut => true
  | .searchStart => true

def anyDemanding : List Node → Bool
  | [] => false
  | node :: nodes => node.isDemanding || anyDemanding nodes

end

mutual

/-- The characters of a node that is nothing but literal text. -/
def literalText? : Node → Option Text
  | .literal value false => some [value]
  | .sequence parts => literalTexts? parts
  | _ => none

/-- The characters of nodes in a row that are nothing but literal text. -/
def literalTexts? : List Node → Option Text
  | [] => some []
  | node :: nodes =>
      match node.literalText?, literalTexts? nodes with
      | some text, some rest => some (text ++ rest)
      | _, _ => none

end

end Node

end NamedCapture.Lookaround
