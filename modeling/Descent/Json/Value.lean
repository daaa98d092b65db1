/-!
Values of the data format. The members of an object are kept in the order in which they were
inserted, and a key that is present already is not inserted again: the member is handed back.
Two values are equal if they have the same shape with equal leaves; numbers compare as numbers.
-/
namespace Descent.Json

/-- Keyed entries in order of insertion. -/
structure Members (α : Type) where
  entries : List (String × α)

namespace Members

variable {α : Type}

def empty : Members α := ⟨[]⟩

def contains (m : Members α) (key : String) : Bool := m.entries.any fun (k, _) => k == key

def get? (m : Members α) (key : String) : Option α :=
  (m.entries.find? fun (k, _) => k == key).map Prod.snd

def keys (m : Members α) : List String := m.entries.map Prod.fst

def toList (m : Members α) : List (String × α) := m.entries

def size (m : Members α) : Nat := m.entries.length

def isEmpty (m : Members α) : Bool := m.entries.isEmpty

/-- Adds an entry at the end, or hands it back if its key is present. -/
def insert (m : Members α) (key : String) (value : α) : Except (String × α) (Members α) :=
  if m.contains key then .error (key, value) else .ok ⟨m.entries ++ [(key, value)]⟩

end Members

inductive Value
  | null
  | bool (value : Bool)
  | number (value : Float)
  | text (value : String)
  | array (items : List Value)
  | object (members : Members Value)

abbrev Object := Members Value

namespace Value

mutual

def same : Value → Value → Bool
  | null, null => true
  | bool x, bool y => x == y
  | number x, number y => x == y
  | text x, text y => x == y
  | array xs, array ys => sameItems xs ys
  | object ⟨xs⟩, object ⟨ys⟩ => sameEntries xs ys
  | _, _ => false

def sameItems : List Value → List Value → Bool
  | [], [] => true
  | x :: xs, y :: ys => same x y && sameItems xs ys
  | _, _ => false

def sameEntries : List (String × Value) → List (String × Value) → Bool
  | [], [] => true
  | (k, x) :: xs, (l, y) :: ys => k == l && same x y && sameEntries xs ys
  | _, _ => false

end

instance : BEq Value := ⟨same⟩

def text? : Value → Option String
  | text value => some value
  | _ => none

def number? : Value → Option Float
  | number value => some value
  | _ => none

def array? : Value → Option (List Value)
  | array items => some items
  | _ => none

def object? : Value → Option Object
  | object members => some members
  | _ => none

def get? (v : Value) (key : String) : Option Value := v.object?.bind (·.get? key)

def item? (v : Value) (index : Nat) : Option Value := v.array?.bind (·[index]?)

inductive Step
  | key (key : String)
  | index (index : Nat)

/-- The value that a path leads to. -/
def follow? (v : Value) : List Step → Option Value
  | [] => some v
  | .key key :: path => (v.get? key).bind (·.follow? path)
  | .index index :: path => (v.item? index).bind (·.follow? path)

end Value

end Descent.Json
