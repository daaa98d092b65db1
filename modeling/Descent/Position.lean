import Descent.Text.Width
import Descent.Text.Record

/-!
Places in a text. A position counts three things at once: the bytes before it, the lines,
from one, and the characters since the last line break, from zero. Moving over a text is a
fold over its characters, so that moving over two texts in turn is moving over both
(`advance_append`), and the offset grows by the bytes of the text (`advance_offset`).
-/
namespace Descent

structure Position where
  offset : Nat
  line : Nat
  column : Nat
deriving DecidableEq, Repr

namespace Position

def start : Position := ⟨0, 1, 0⟩

instance : Inhabited Position := ⟨start⟩

def step (p : Position) (c : Char) : Position :=
  if c = '\n' then ⟨p.offset + c.utf8Size, p.line + 1, 0⟩
  else ⟨p.offset + c.utf8Size, p.line, p.column + 1⟩

def advance (p : Position) (text : List Char) : Position := text.foldl step p

/-- Positions in order of offset, then line, then column. -/
def order (p q : Position) : Ordering :=
  (compare p.offset q.offset).then ((compare p.line q.line).then (compare p.column q.column))

instance : Ord Position := ⟨order⟩

def display (p : Position) : String := s!"line {p.line}, col {p.column}"

instance : ToString Position := ⟨display⟩

def inspect (p : Position) : String :=
  Text.record "Position"
    [("offset", toString p.offset), ("line", toString p.line), ("column", toString p.column)]

@[simp] theorem advance_nil (p : Position) : p.advance [] = p := rfl

@[simp] theorem advance_cons (p : Position) (c : Char) (cs : List Char) :
    p.advance (c :: cs) = (p.step c).advance cs := rfl

theorem advance_append (p : Position) (xs ys : List Char) :
    p.advance (xs ++ ys) = (p.advance xs).advance ys := List.foldl_append

theorem step_offset (p : Position) (c : Char) : (p.step c).offset = p.offset + c.utf8Size := by
  unfold step
  split <;> rfl

theorem advance_offset (p : Position) (text : List Char) :
    (p.advance text).offset = p.offset + Text.width text := by
  induction text generalizing p with
  | nil => rfl
  | cons c cs ih => rw [advance_cons, ih, step_offset, Text.width_cons, Nat.add_assoc]

/-- From the start of a text, the offset counts the bytes of what was passed. -/
theorem start_advance_offset (text : List Char) :
    (start.advance text).offset = Text.width text := by
  rw [advance_offset]
  exact Nat.zero_add _

end Position

end Descent
