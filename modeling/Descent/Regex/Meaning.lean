import Descent.Regex.Expression
import Descent.Text.LetterCase

/-!
What patterns mean. Flags take effect from where they stand to the end of the group around them,
also across its branches. Without the flag for all characters, sets hold characters of ASCII
only, and what could stand for anything else is refused.
-/
namespace Descent.Regex

open Text (CharSet)

namespace Flags

/-- A set up to letter case, if case does not matter. -/
def fold (f : Flags) (s : CharSet) : CharSet :=
  let ascii := CharSet.ofIntervals [(0x00, 0x7f)]
  if !f.ignoreCase then s
  else if f.unicode then s.anyCase
  else CharSet.union s (CharSet.inter (CharSet.inter s ascii).anyCase ascii)

/-- The complement, which is never a set of ASCII. -/
def complIf? (f : Flags) (negated : Bool) (s : CharSet) : Option CharSet :=
  if !negated then some s
  else if f.unicode then some s.compl
  else none

def named? (f : Flags) (negated : Bool) (set : NamedSet) : Option CharSet := do
  let s ← if f.unicode then some set.full else set.ascii?
  f.complIf? negated (f.fold s)

def admits (f : Flags) (c : Char) : Bool := f.unicode || c.toNat < 0x80

def dot? (f : Flags) : Option CharSet :=
  if !f.unicode then none
  else if f.dotAll then some CharSet.full
  else if f.wideBreaks then some (CharSet.ofIntervals [(0x0a, 0x0a), (0x0d, 0x0d)]).compl
  else some (CharSet.single '\n').compl

def lineStart (f : Flags) : Assertion :=
  if !f.multiLine then .textStart else if f.wideBreaks then .anyLineStart else .lineStart

def lineEnd (f : Flags) : Assertion :=
  if !f.multiLine then .textEnd else if f.wideBreaks then .anyLineEnd else .lineEnd

end Flags

def SetOperator.apply : SetOperator → CharSet → CharSet → CharSet
  | inter => CharSet.inter
  | diff => CharSet.diff
  | symmDiff => CharSet.symmDiff

/-- The set that the inside of a class stands for, before the class itself is folded and
negated. -/
def Bracket.meaning? (f : Flags) : Bracket → Option CharSet
  | empty => some CharSet.empty
  | char c => if f.admits c then some (CharSet.single c) else none
  | range low high => if f.admits high then some (CharSet.interval low high) else none
  | named negated set => f.named? negated set
  | nested negated body => do f.complIf? negated (f.fold (← body.meaning? f))
  | union first second => do return CharSet.union (← first.meaning? f) (← second.meaning? f)
  | combined operator left right => do
    return operator.apply (f.fold (← left.meaning? f)) (f.fold (← right.meaning? f))

namespace Phrase

/-- The branches that a phrase stands for, most often one, and the flags behind it. -/
def branches? : Phrase → Flags → Option (List Expression × Flags)
  | empty, f => some ([.empty], f)
  | change flags, f => some ([.empty], f.change flags)
  | char c asByte, f =>
    if f.unicode || !asByte || c.toNat < 0x80 then some ([.oneOf (f.fold (CharSet.single c))], f)
    else none
  | dot, f => do return ([.oneOf (← f.dot?)], f)
  | lineStart, f => some ([.require f.lineStart], f)
  | lineEnd, f => some ([.require f.lineEnd], f)
  | textStart, f => some ([.require .textStart], f)
  | textEnd, f => some ([.require .textEnd], f)
  | word kind, f => some ([.require (.word (!f.unicode) kind)], f)
  | named negated set, f => do return ([.oneOf (← f.named? negated set)], f)
  | bracket negated body, f => do
    return ([.oneOf (← f.complIf? negated (f.fold (← body.meaning? f)))], f)
  | group index body, f => do
    let (es, _) ← body.branches? f
    return ([.group index (.alternation es)], f)
  | scope flags body, f => do
    let (es, _) ← body.branches? (f.change flags)
    return ([.alternation es], f)
  | repeated least most greedy body, f => do
    let (es, f) ← body.branches? f
    return ([.repetition least most (greedy != f.swapGreed) (.alternation es)], f)
  | seq first second, f => do
    let (es, f) ← first.branches? f
    let (es', f) ← second.branches? f
    return ([.concat (.alternation es) (.alternation es')], f)
  | either first second, f => do
    let (es, f) ← first.branches? f
    let (es', f) ← second.branches? f
    return (es ++ es', f)

def meaning? (phrase : Phrase) (flags : Flags) : Option Expression := do
  let (es, _) ← phrase.branches? flags
  return .alternation es

end Phrase

end Descent.Regex
