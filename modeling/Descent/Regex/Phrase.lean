import Descent.Regex.Flags
import Descent.Regex.NamedSet

/-!
Patterns as they are written, before flags give them a meaning. Parts in a row, branches and
the members of a class hang to the right: the second part of a row may be a row again, and
counts as the same level. `Phrase.height` is the number of levels, which is bounded.
-/
namespace Descent.Regex

open Text (CharSet)

inductive WordBorder
  | border
  | noBorder
  | start
  | stop
  | startHalf
  | stopHalf
deriving DecidableEq

inductive SetOperator
  | inter
  | diff
  | symmDiff
deriving DecidableEq

/-- The inside of a bracketed class. -/
inductive Bracket
  | empty
  | char (c : Char)
  | range (low high : Char)
  | named (negated : Bool) (set : NamedSet)
  | nested (negated : Bool) (body : Bracket)
  | union (first second : Bracket)
  | combined (operator : SetOperator) (left right : Bracket)

inductive Phrase
  | empty
  | change (flags : FlagChange)
  /-- A character. `asByte` holds if it is written by two hexadecimal digits. -/
  | char (c : Char) (asByte : Bool)
  | dot
  | lineStart
  | lineEnd
  | textStart
  | textEnd
  | word (kind : WordBorder)
  | named (negated : Bool) (set : NamedSet)
  | bracket (negated : Bool) (body : Bracket)
  | group (index : Nat) (body : Phrase)
  | scope (flags : FlagChange) (body : Phrase)
  | repeated (least : Nat) (most : Option Nat) (greedy : Bool) (body : Phrase)
  | seq (first second : Phrase)
  | either (first second : Phrase)

def Bracket.ofItems : List Bracket → Bracket
  | [] => empty
  | [item] => item
  | item :: items => union item (ofItems items)

/-- The levels of a class inside its brackets. `joined` holds for the rest of a row. -/
def Bracket.height (joined : Bool) : Bracket → Nat
  | empty | char _ | range _ _ | named _ _ => 0
  | nested _ body => body.height false + 1
  | union first second =>
    max (first.height false) (second.height true) + if joined then 0 else 1
  | combined _ left right => max (left.height false) (right.height false) + 1

namespace Phrase

def ofParts : List Phrase → Phrase
  | [] => empty
  | [part] => part
  | part :: parts => seq part (ofParts parts)

/-- What a phrase may be the rest of. -/
inductive Joint
  | none
  | row
  | branches
deriving DecidableEq

/-- The levels of a phrase. -/
def height (joint : Joint) : Phrase → Nat
  | bracket _ body => body.height false + 1
  | group _ body | scope _ body | repeated _ _ _ body => body.height .none + 1
  | seq first second =>
    max (first.height .none) (second.height .row) + if joint = .row then 0 else 1
  | either first second =>
    max (first.height .none) (second.height .branches) + if joint = .branches then 0 else 1
  | _ => 0

end Phrase

end Descent.Regex
