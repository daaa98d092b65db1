/-!
Binary floating-point numbers of 64 bits as exact quantities: a finite number is a sign, a
significand and a power of two. `nearest` rounds a positive fraction to such a number, to the
nearest one and to the even significand in the middle. Decimal numerals are read through it,
so that reading rounds once.
-/
namespace Descent.Decimal

/-- The least power of two that a significand is scaled by. -/
def leastExponent : Int := -1074

/-- The significand of every number above the subnormal ones has this bit. -/
def hiddenBit : Nat := 0x10000000000000

/-- The bits of positive infinity. Larger magnitudes are no numbers. -/
def infinityBits : Nat := 0x7ff0000000000000

def signBit : Nat := 0x8000000000000000

/-- The integer nearest to `num / den`; of two, the even one. -/
def roundHalfEven (num den : Nat) : Nat :=
  let low := num / den
  let twice := 2 * (num % den)
  if twice < den || (twice = den && low % 2 = 0) then low else low + 1

/-- `num / den` times a power of two, as a fraction. -/
def scaled (num den : Nat) (exponent : Int) : Nat × Nat :=
  if 0 ≤ exponent then (num <<< exponent.toNat, den) else (num, den <<< (-exponent).toNat)

/-- The largest `k` with `2 ^ k ≤ num / den`, for a positive fraction. -/
def floorLog2 (num den : Nat) : Int :=
  let guess : Int := (num.log2 : Int) - (den.log2 : Int)
  let (n, d) := scaled num den (-guess)
  if n < d then guess - 1 else guess

/-- The bits of the number nearest to a positive fraction. The significand follows the
exponent in the bits, so that a carry out of it moves to the next exponent by itself. -/
def nearest (num den : Nat) : Nat :=
  let exponent := max (floorLog2 num den - 52) leastExponent
  let (n, d) := scaled num den (-exponent)
  min infinityBits ((exponent - leastExponent).toNat * hiddenBit + roundHalfEven n d)

/-- A numeral: `digits` times the power of ten, with a sign. -/
structure Numeral where
  negative : Bool
  digits : Nat
  exponent : Int

/-- Beyond these powers of ten every positive numeral of a given number of digits is infinite
or zero. -/
def Numeral.magnitudeBits (n : Numeral) (digitCount : Nat) : Nat :=
  if n.digits = 0 then 0
  else if 310 < n.exponent then infinityBits
  else if n.exponent + digitCount < -330 then 0
  else if 0 ≤ n.exponent then nearest (n.digits * Nat.pow 10 n.exponent.toNat) 1
  else nearest n.digits (Nat.pow 10 (-n.exponent).toNat)

/-- The number nearest to a numeral that was written with `digitCount` digits. -/
def Numeral.toFloat (n : Numeral) (digitCount : Nat) : Float :=
  let bits := n.magnitudeBits digitCount
  Float.ofBits (UInt64.ofNat (if n.negative then signBit + bits else bits))

def digitsValue (cs : List Char) : Nat :=
  cs.foldl (fun n c => 10 * n + (c.toNat - '0'.toNat)) 0

/-- A run of digits that may follow `mark`: the digits, empty if there are none. -/
def digitsAfter (mark : Char) (cs : List Char) : List Char × List Char :=
  match cs with
  | c :: rest =>
    if c = mark then (rest.takeWhile Char.isDigit, rest.dropWhile Char.isDigit) else ([], cs)
  | [] => ([], [])

def exponentValue : List Char → Int
  | '-' :: cs => -(digitsValue cs : Int)
  | '+' :: cs => digitsValue cs
  | cs => digitsValue cs

/-- Reads a decimal numeral: a sign, digits, a fraction and a power of ten, all but the digits
being optional. -/
def readFloat? (text : List Char) : Option Float :=
  let negative := text.head? = some '-'
  let unsigned := if negative then text.tail else text
  let whole := unsigned.takeWhile Char.isDigit
  let (fraction, rest) := digitsAfter '.' (unsigned.dropWhile Char.isDigit)
  let numeral (power : Int) : Float :=
    let digits := whole ++ fraction
    Numeral.toFloat ⟨negative, digitsValue digits, power - fraction.length⟩ digits.length
  if whole.isEmpty then none
  else match rest with
    | [] => some (numeral 0)
    | e :: power => if e = 'e' || e = 'E' then some (numeral (exponentValue power)) else none

end Descent.Decimal
