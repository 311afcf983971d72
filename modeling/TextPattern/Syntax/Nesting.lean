import TextPattern.Syntax.Tree
import TextPattern.Syntax.Fault

/-!
# The limit of nesting

* `nestLimit` : how deep groups, repetitions, classes, alternations and concatenations may nest;
* `ClassTree.checkDepth`, `Tree.checkDepth` : the first item, in reading order, that is too deep.
-/

namespace TextPattern.Syntax

def nestLimit : Nat := 250

def enter (depth : Nat) (span : Span) : Except Fault Unit :=
  if depth < nestLimit then .ok () else .error { kind := .nestLimitExceeded nestLimit, span }

mutual

/-- Checks the depth of a part of a class whose surroundings have depth `depth`. -/
def ClassTree.checkDepth (depth : Nat) : ClassTree → Except Fault Unit
  | .bracket span _ body => do
    enter depth span
    body.checkDepth (depth + 1)
  | .union span items => do
    enter depth span
    checkItemsDepth (depth + 1) items
  | .binary span _ lhs rhs => do
    enter depth span
    lhs.checkDepth (depth + 1)
    rhs.checkDepth (depth + 1)
  | _ => .ok ()

def checkItemsDepth (depth : Nat) : List ClassTree → Except Fault Unit
  | [] => .ok ()
  | item :: items => do
    item.checkDepth depth
    checkItemsDepth depth items

end

mutual

/-- Checks the depth of a tree whose surroundings have depth `depth`. -/
def Tree.checkDepth (depth : Nat) : Tree → Except Fault Unit
  | .bracket span _ body => do
    enter depth span
    body.checkDepth (depth + 1)
  | .repetition span _ _ sub => do
    enter depth span
    sub.checkDepth (depth + 1)
  | .group span _ sub => do
    enter depth span
    sub.checkDepth (depth + 1)
  | .alternation span branches => do
    enter depth span
    checkPartsDepth (depth + 1) branches
  | .concat span parts => do
    enter depth span
    checkPartsDepth (depth + 1) parts
  | _ => .ok ()

def checkPartsDepth (depth : Nat) : List Tree → Except Fault Unit
  | [] => .ok ()
  | part :: parts => do
    part.checkDepth depth
    checkPartsDepth depth parts

end

end TextPattern.Syntax
