import Descent.Token

/-!
Grammars: rules with the kinds of value they yield, and a script for the body of each. A rule
may invoke any rule of its grammar, also itself; `run` counts the levels of nesting down, so that
a run always ends. Where the bound on nesting is below the largest count, it refuses the
invocation before the levels are used up.
-/
namespace Descent

structure Grammar where
  Rule : Type
  Yield : Rule → Type
  /-- The name of the kind of value that a rule yields, as logs show it. -/
  kind : Rule → String
  body : (r : Rule) → Script Yield (Yield r)

namespace Grammar

def kindOf (g : Grammar) : Callee g.Rule → String
  | .token t => t.kind
  | .rule r => g.kind r

def script (g : Grammar) : (c : Callee g.Rule) → Script g.Yield (c.Yield g.Yield)
  | .token t => t.script
  | .rule r => g.body r

/-- Runs a body with room for so many levels, its own among them. -/
def run (g : Grammar) : Nat → (c : Callee g.Rule) → Scanner → Outcome (c.Yield g.Yield)
  | 0, _, _ => .exhausted
  | levels + 1, c, s => (g.script c).run g.kindOf (g.run levels) s

/-- The levels that a parse within the limits can reach, and the one it starts on. No run nests
deeper than the largest count: that many invocations have no room in memory. -/
def levels (limits : Limits) : Nat := min (limits.maxDepth + 1) unlimited

/-- Runs a script on a scanner as the body of an invocation that is not nested. -/
def runScript {α : Type} (g : Grammar) (script : Script g.Yield α) (s : Scanner) : Outcome α :=
  script.run g.kindOf (g.run (levels s.limits)) s

end Grammar

/-- Values side by side: one for each item of a list, of the kind that goes with the item. -/
inductive Row {β : Type} (V : β → Type) : List β → Type
  | nil : Row V []
  | cons {x : β} {xs : List β} (value : V x) (values : Row V xs) : Row V (x :: xs)

def Row.toList {α β : Type} {V : β → Type} (alike : (x : β) → V x → α) :
    {xs : List β} → Row V xs → List α
  | _, nil => []
  | x :: _, cons value values => alike x value :: values.toList alike

namespace Script

variable {ρ : Type} {Y : ρ → Type} {α β : Type}

/-- The stages in turn, up to the first that fails, with the list of their values. -/
def sequence (stage : β → Script Y α) : List β → Script Y (List α)
  | [] => done []
  | x :: xs => do
    let value ← stage x
    let values ← sequence stage xs
    return value :: values

def literals (texts : List String) : Script Y (List String) :=
  sequence (fun text => parse (.token (.literal text))) texts

def tuple {V : β → Type} (stage : (x : β) → Script Y (V x)) :
    (xs : List β) → Script Y (Row V xs)
  | [] => done .nil
  | x :: xs => do
    let value ← stage x
    let values ← tuple stage xs
    return .cons value values

def literalTuple (texts : List String) : Script Y (Row (fun _ => String) texts) :=
  tuple (fun text => parse (.token (.literal text))) texts

end Script

end Descent
