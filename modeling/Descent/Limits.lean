import Descent.Reason

/-!
Bounds on a parse: how deep invocations may nest, and how much of the text left over a log
line shows. The guard counts the nesting. Counts are machine words, so that the deepest count
is also the bound that never refuses.
-/
namespace Descent

/-- The largest count. As a bound on nesting it refuses nothing. -/
def unlimited : Nat := 0xffffffffffffffff

structure Limits where
  maxDepth : Nat := 512
  /-- The number of characters of the text left that a log line shows. -/
  preview : Nat := 24
deriving DecidableEq, Repr

namespace Limits

instance : Inhabited Limits := ⟨{}⟩

def withMaxDepth (l : Limits) (depth : Nat) : Limits := { l with maxDepth := depth }

def withPreview (l : Limits) (characters : Nat) : Limits := { l with preview := characters }

def withoutDepthBound (l : Limits) : Limits := l.withMaxDepth unlimited

def inspect (l : Limits) : String :=
  Text.record "ParseConfig"
    [("max_recursion_depth", toString l.maxDepth), ("trace_preview", toString l.preview)]

end Limits

structure Guard where
  depth : Nat := 0
deriving DecidableEq, Repr

namespace Guard

/-- One level deeper; the count stays at its largest value. -/
def deeper (g : Guard) : Guard := ⟨min (g.depth + 1) unlimited⟩

/-- One level up; the count stays at zero. -/
def leave (g : Guard) : Guard := ⟨g.depth - 1⟩

/-- Enters a level. The level counts as entered also when the bound refuses it. -/
def enter (g : Guard) (limit : Nat) : Guard × Except Reason Unit :=
  if limit < g.deeper.depth then (g.deeper, .error (.tooDeep g.deeper.depth limit))
  else (g.deeper, .ok ())

end Guard

end Descent
