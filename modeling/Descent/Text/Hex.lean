/-!
Numbers in base sixteen, in either case when read and in lower case when written.
-/
namespace Descent.Text

/-- The value of a hexadecimal digit of either case. -/
def hexValue? (c : Char) : Option Nat :=
  if '0' ≤ c && c ≤ '9' then some (c.toNat - '0'.toNat)
  else if 'a' ≤ c && c ≤ 'f' then some (c.toNat - 'a'.toNat + 10)
  else if 'A' ≤ c && c ≤ 'F' then some (c.toNat - 'A'.toNat + 10)
  else none

/-- The number that a text of digits writes, read on from the value of the digits before it. -/
def hexNumberFrom? (value : Nat) : List Char → Option Nat
  | [] => some value
  | c :: cs => do hexNumberFrom? (16 * value + (← hexValue? c)) cs

def hexNumber? : List Char → Option Nat
  | [] => none
  | cs => hexNumberFrom? 0 cs

/-- The digits of a number, lower case, without leading zeros. -/
def hexDigits (n : Nat) : List Char := Nat.toDigits 16 n

end Descent.Text
