import Descent.Regex.Node
import Std.Data.HashSet

/-!
Matching by preference. A node is matched at a place of a text with a continuation for what
follows; of the ways to match that let the continuation succeed, the first in the order of
preference is taken. What follows a choice depends on the choice and the place alone, so that a
choice that was taken in vain need not be taken at the same place again: this bounds the work by
the number of choices and places, and keeps loops from going round without reading. `search`
looks for a match at the earliest place that has one.
-/
namespace Descent.Regex

open Text (CharSet)

/-- A stretch of a text, counted in characters. -/
structure Span where
  start : Nat
  stop : Nat
deriving DecidableEq, Repr

def Span.slice (s : Span) (text : List Char) : List Char :=
  (text.drop s.start).take (s.stop - s.start)

structure Spot where
  before : Option Char
  rest : List Char
  index : Nat
  /-- The texts of the groups passed so far, latest first. -/
  groups : List (Nat × Span)

namespace Spot

def read? (s : Spot) (set : CharSet) : Option Spot :=
  match s.rest with
  | [] => none
  | c :: cs =>
    if set.contains c then some { s with before := some c, rest := cs, index := s.index + 1 }
    else none

/-- Keeps the text of a group that began at an earlier place. -/
def keep (s : Spot) (index start : Nat) : Spot :=
  { s with groups := (index, ⟨start, s.index⟩) :: s.groups }

def holds (s : Spot) (a : Assertion) : Bool := a.holds s.before s.rest.head?

end Spot

/-- The choices taken so far, each with the place where it was taken. -/
abbrev Taken := Std.HashSet (Mark × Nat)

/-- What came of an attempt: the place behind the match, or the choices taken in vain. -/
abbrev Attempt := Except Taken Spot

abbrev Continuation := Spot → Taken → Attempt

namespace Node

/-- Takes a choice, unless it was taken at the same place before. -/
def choose (mark : Mark) (first second : Continuation) : Continuation := fun s taken =>
  if taken.contains (mark, s.index) then .error taken
  else
    match first s (taken.insert (mark, s.index)) with
    | .ok t => .ok t
    | .error taken => second s taken

/-- Rounds of a body, each decided at its beginning. `rounds` bounds their number. -/
def loop (mark : Mark) (greedy : Bool) (body : Continuation → Continuation) (k : Continuation) :
    Nat → Continuation
  | 0 => fun _ taken => .error taken
  | rounds + 1 =>
    if greedy then choose mark (fun s => body (loop mark greedy body k rounds) s) k
    else choose mark k (fun s => body (loop mark greedy body k rounds) s)

/-- Matches a node and continues behind it. Two rounds of a loop never begin at the same place,
so that `rounds` need be no more than the number of characters, and one. -/
def run (rounds : Nat) : Node → Continuation → Continuation
  | empty, k => k
  | oneOf set, k => fun s taken =>
    match s.read? set with
    | none => .error taken
    | some s => k s taken
  | require a, k => fun s taken => if s.holds a then k s taken else .error taken
  | group index body, k => fun s => body.run rounds (fun t => k (t.keep index s.index)) s
  | seq first second, k => first.run rounds (second.run rounds k)
  | choice mark first second, k => choose mark (first.run rounds k) (second.run rounds k)
  | star mark greedy body, k => loop mark greedy (body.run rounds) k rounds
  | plus mark greedy body, k => body.run rounds (loop mark greedy (body.run rounds) k rounds)

/-- The match at the earliest place that has one: where it begins, and the place behind it. -/
def searchFrom (n : Node) (rounds : Nat) (taken : Taken) (before : Option Char) (index : Nat)
    (rest : List Char) : Option (Nat × Spot) :=
  match n.run rounds (fun s _ => .ok s) ⟨before, rest, index, []⟩ taken with
  | .ok s => some (index, s)
  | .error taken =>
    match rest with
    | [] => none
    | c :: cs =>
      if n.isAnchored then none else n.searchFrom rounds taken (some c) (index + 1) cs

def search (n : Node) (text : List Char) : Option (Nat × Spot) :=
  n.searchFrom (text.length + 1) ∅ none 0 text

end Node

end Descent.Regex
