import Descent.Regex.Expression

/-!
The form of a regular expression that is matched. Counted repetition is spelled out, so that
only two loops are left: one that may be passed by and whose body always reads, and one that
runs its body at least once. Every choice has a mark of its own: where it stands in the tree.
-/
namespace Descent.Regex

open Text (CharSet)

/-- Where a choice stands in the tree: the branches taken from it up to the root. -/
abbrev Mark := List Nat

inductive Node
  | empty
  | oneOf (set : CharSet)
  | require (assertion : Assertion)
  | group (index : Nat) (body : Node)
  | seq (first second : Node)
  | choice (mark : Mark) (first second : Node)
  | star (mark : Mark) (greedy : Bool) (body : Node)
  | plus (mark : Mark) (greedy : Bool) (body : Node)
deriving DecidableEq

namespace Node

/-- A body or nothing, in the order of preference. -/
def optional (mark : Mark) (greedy : Bool) (body : Node) : Node :=
  if greedy then choice mark body empty else choice mark empty body

/-- Copies of a body, from the `i`th on, in sequence. -/
def copies (body : Nat → Node) : Nat → Nat → Node
  | _, 0 => empty
  | i, 1 => body i
  | i, n + 2 => seq (body i) (copies body (i + 1) (n + 1))

/-- At most `n` copies of a body, each inside the option of the one before. -/
def upTo (mark : Nat → Mark) (greedy : Bool) (body : Nat → Node) : Nat → Nat → Node
  | _, 0 => empty
  | i, 1 => optional (mark i) greedy (body i)
  | i, n + 2 => optional (mark i) greedy (seq (body i) (upTo mark greedy body (i + 1) (n + 1)))

/-- Two nodes in sequence, without empty ones. -/
def andThen : Node → Node → Node
  | empty, b => b
  | a, empty => a
  | a, b => seq a b

def isAnchored : Node → Bool
  | require a => a = .textStart
  | group _ body | plus _ _ body => body.isAnchored
  | seq first _ => first.isAnchored
  | choice _ first second => first.isAnchored && second.isAnchored
  | empty | oneOf _ | star _ _ _ => false

end Node

namespace Expression

/-- The node of an expression that stands at a place in the tree. -/
def toNode (here : Mark) : Expression → Node
  | empty => .empty
  | oneOf set => .oneOf set
  | require assertion => .require assertion
  | group index body => .group index (body.toNode (0 :: here))
  | seq first second => .seq (first.toNode (0 :: here)) (second.toNode (1 :: here))
  | either first second => .choice here (first.toNode (0 :: here)) (second.toNode (1 :: here))
  | repeated least most greedy body =>
    let mark (i : Nat) : Mark := i :: 0 :: here
    let copy (i : Nat) : Node := body.toNode (i :: 1 :: here)
    match most with
    | some most =>
      (Node.copies copy 0 least).andThen (Node.upTo mark greedy copy least (most - least))
    | none =>
      if 1 < least then .seq (Node.copies copy 0 (least - 1)) (.plus (mark 0) greedy (copy least))
      else if least = 1 then .plus (mark 0) greedy (copy 0)
      else if body.consumes then .star (mark 0) greedy (copy 0)
      else Node.optional (mark 1) greedy (.plus (mark 0) greedy (copy 0))

end Expression

end Descent.Regex
