import Descent.Regex.NamedSet
import Descent.Regex.Phrase

/-!
Regular expressions as trees. The order of the branches of a choice, and whether a repetition
is greedy, say which of several matches is preferred. `concat`, `alternation` and `repetition`
build trees in a normal form: rows and choices hang to the right, a choice between characters is
a set, and a front that all branches of a choice have in common is taken out of it.
-/
namespace Descent.Regex

open Text (CharSet)

/-- Conditions on a place in a text, which read nothing. -/
inductive Assertion
  | textStart
  | textEnd
  | lineStart
  | lineEnd
  /-- Line borders that also know the two-character line break. -/
  | anyLineStart
  | anyLineEnd
  | word (ascii : Bool) (kind : WordBorder)
deriving DecidableEq

/-- Whether there is a word character, on one side of a place. -/
def isWord (ascii : Bool) : Option Char → Bool
  | some c => if ascii then NamedSet.asciiWordChars.contains c else Text.wordChars.contains c
  | none => false

def WordBorder.holds (kind : WordBorder) (before after : Bool) : Bool :=
  match kind with
  | border => before != after
  | noBorder => before == after
  | start => !before && after
  | stop => before && !after
  | startHalf => !before
  | stopHalf => !after

def Assertion.holds (a : Assertion) (before after : Option Char) : Bool :=
  match a with
  | textStart => before.isNone
  | textEnd => after.isNone
  | lineStart => before.isNone || before = some '\n'
  | lineEnd => after.isNone || after = some '\n'
  | anyLineStart =>
    before.isNone || before = some '\n' || (before = some '\r' && after ≠ some '\n')
  | anyLineEnd =>
    after.isNone || after = some '\r' || (after = some '\n' && before ≠ some '\r')
  | word ascii kind => kind.holds (isWord ascii before) (isWord ascii after)

inductive Expression
  | empty
  | oneOf (set : CharSet)
  | require (assertion : Assertion)
  | group (index : Nat) (body : Expression)
  | seq (first second : Expression)
  | either (first second : Expression)
  | repeated (least : Nat) (most : Option Nat) (greedy : Bool) (body : Expression)
deriving DecidableEq

namespace Expression

/-- Whether every match reads at least one character. -/
def consumes : Expression → Bool
  | empty => false
  | oneOf _ => true
  | require _ => false
  | group _ body => body.consumes
  | seq first second => first.consumes || second.consumes
  | either first second => first.consumes && second.consumes
  | repeated least _ _ body => 0 < least && body.consumes

/-- Whether no match reads a character. -/
def readsNothing : Expression → Bool
  | empty => true
  | oneOf _ => false
  | require _ => true
  | group _ body => body.readsNothing
  | seq first second => first.readsNothing && second.readsNothing
  | either first second => first.readsNothing && second.readsNothing
  | repeated _ _ _ body => body.readsNothing

/-- One more than the largest number of a group, and at least one for the whole match. -/
def groupCount : Expression → Nat
  | empty | oneOf _ | require _ => 1
  | group index body => max (index + 1) body.groupCount
  | seq first second | either first second => max first.groupCount second.groupCount
  | repeated _ _ _ body => body.groupCount

def concat : Expression → Expression → Expression
  | empty, e => e
  | seq a b, e => a.concat (b.concat e)
  | a, empty => a
  | a, e => seq a e

def parts : Expression → List Expression
  | seq a b => a :: b.parts
  | e => [e]

def branches : Expression → List Expression
  | either a b => a :: b.branches
  | e => [e]

def set? : Expression → Option CharSet
  | oneOf set => some set
  | _ => none

def concatAll (es : List Expression) : Expression := es.foldr concat empty

/-- A choice between branches; a set if all of them read one character. -/
def choice (es : List Expression) : Expression :=
  match es.mapM set? with
  | some sets => oneOf (CharSet.unionAll sets)
  | none =>
    match es.getLast? with
    | some last => es.dropLast.foldr either last
    | none => empty

/-- The number of parts that a row has in common with another, from the front. -/
def commonFront : List Expression → List Expression → Nat
  | a :: as, b :: bs => if a = b then commonFront as bs + 1 else 0
  | _, _ => 0

/-- A choice between branches, the first preferred. Branches that are choices themselves count
as their branches. If all are rows with a front in common, the choice is between what follows
it. -/
def alternation (es : List Expression) : Expression :=
  match es.flatMap branches with
  | [] => empty
  | [e] => e
  | first :: others =>
    let rows := (first :: others).map parts
    let common :=
      others.foldl (fun n e => min n (commonFront first.parts e.parts)) first.parts.length
    if 0 < common && rows.all (1 < ·.length) then
      concat (concatAll (first.parts.take common))
        (choice ((rows.map fun row => concatAll (row.drop common)).flatMap branches))
    else choice (first :: others)

/-- A repetition. What reads nothing is not repeated more than once, and what is repeated no
times is dropped with its groups. -/
def repetition (least : Nat) (most : Option Nat) (greedy : Bool) (body : Expression) :
    Expression :=
  let least' := if body.readsNothing then min least 1 else least
  let most' := if body.readsNothing then some (min (most.getD 1) 1) else most
  if most' = some 0 then empty
  else if least' = 1 && most' = some 1 then body
  else repeated least' most' greedy body

end Expression

end Descent.Regex
