import Descent.Decimal.Shortest
import Descent.Text.Quoted
import Descent.Text.Record

/-!
Arguments that a grammar passes to the rules it invokes. Two arguments are equal if they are
of one kind and hold equal values; numbers compare as numbers, so that one that is not a
number equals nothing, and the two zeros equal each other.
-/
namespace Descent

inductive Argument
  | text (value : String)
  | int (value : Int)
  | float (value : Float)
  | bool (value : Bool)
  | char (value : Char)

namespace Argument

def text? : Argument → Option String
  | text value => some value
  | _ => none

def int? : Argument → Option Int
  | int value => some value
  | _ => none

def float? : Argument → Option Float
  | float value => some value
  | _ => none

def bool? : Argument → Option Bool
  | bool value => some value
  | _ => none

def char? : Argument → Option Char
  | char value => some value
  | _ => none

def same : Argument → Argument → Bool
  | text x, text y => x == y
  | int x, int y => x == y
  | float x, float y => x == y
  | bool x, bool y => x == y
  | char x, char y => x == y
  | _, _ => false

instance : BEq Argument := ⟨same⟩

def inspect : Argument → String
  | text value => Text.applied "Str" (Text.quoted value)
  | int value => Text.applied "Int" (toString value)
  | float value => Text.applied "Float" (Decimal.inspect value)
  | bool value => Text.applied "Bool" (toString value)
  | char value => Text.applied "Char" (Text.quotedSingle value)

end Argument

end Descent
