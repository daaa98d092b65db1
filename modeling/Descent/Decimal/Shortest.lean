import Descent.Decimal.Binary64

/-!
The fewest decimal digits that read back as a given number. `shortest` looks at the decimal
grids of one digit, two digits and so on; on each, only the two neighbours of the number can
lie among the reals that round to it, and the first grid with a hit gives the digits.
`inspect` lays them out: positional between `10 ^ -4` and `10 ^ 16`, with an exponent outside.
-/
namespace Descent.Decimal

/-- A finite nonzero magnitude, `significand * 2 ^ exponent`. -/
structure Magnitude where
  significand : Nat
  exponent : Int

def Magnitude.ofBits (bits : Nat) : Magnitude :=
  if bits < hiddenBit then ⟨bits, leastExponent⟩
  else ⟨hiddenBit + bits % hiddenBit, (bits / hiddenBit - 1 : Nat) + leastExponent⟩

/-- A fraction against which candidates are compared: a quarter of the number's last place is
the unit, so that the borders of the interval are whole. -/
structure Interval where
  low : Nat
  middle : Nat
  high : Nat
  exponent : Int
  /-- Whether the borders themselves round to the number. -/
  closed : Bool

/-- The reals that round to a magnitude. Below a power of two the next number is nearer. -/
def Magnitude.interval (m : Magnitude) : Interval where
  low := if m.significand = hiddenBit && leastExponent < m.exponent
    then 4 * m.significand - 1 else 4 * m.significand - 2
  middle := 4 * m.significand
  high := 4 * m.significand + 2
  exponent := m.exponent - 2
  closed := m.significand % 2 = 0

/-- `num / den` divided by a power of ten, as a fraction. -/
def scaledDown (num den : Nat) (power : Int) : Nat × Nat :=
  if 0 ≤ power then (num, den * Nat.pow 10 power.toNat)
  else (num * Nat.pow 10 (-power).toNat, den)

/-- The largest `k` with `10 ^ k ≤ num / den`, searched from above. -/
def floorLog10 (num den : Nat) : Nat → Int → Int
  | 0, k => k
  | fuel + 1, k =>
    let (n, d) := scaledDown num den k
    if d ≤ n then k else floorLog10 num den fuel (k - 1)

structure Digits where
  digits : Nat
  power : Int

/-- The neighbour of the number on the grid of `10 ^ power` that reads back, the nearer of two;
in the middle, the upper. -/
def Interval.onGrid? (i : Interval) (power : Int) : Option Digits :=
  let unit (n : Nat) : Nat × Nat := scaled n 1 i.exponent
  let scaledBy (n : Nat) : Nat × Nat :=
    let (num, den) := unit n
    scaledDown num den power
  let (lowNum, lowDen) := scaledBy i.low
  let (midNum, midDen) := scaledBy i.middle
  let (highNum, highDen) := scaledBy i.high
  let below := midNum / midDen
  let above := below + 1
  let belowReads :=
    if i.closed then lowNum ≤ below * lowDen else lowNum < below * lowDen
  let aboveReads :=
    if i.closed then above * highDen ≤ highNum else above * highDen < highNum
  let nearerBelow := 2 * (midNum - below * midDen) < midDen
  if belowReads && (nearerBelow || !aboveReads) then some ⟨below, power⟩
  else if aboveReads then some ⟨above, power⟩
  else none

/-- Seventeen digits always suffice. -/
def Interval.shortestFrom (i : Interval) : Nat → Int → Digits
  | 0, power => ⟨0, power⟩
  | fuel + 1, power => (i.onGrid? power).getD (i.shortestFrom fuel (power - 1))

def Digits.trim : Nat → Digits → Digits
  | 0, d => d
  | fuel + 1, d =>
    if d.digits ≠ 0 && d.digits % 10 = 0 then trim fuel ⟨d.digits / 10, d.power + 1⟩ else d

/-- The fewest digits that read back as the magnitude, nearest to it among those. -/
def Magnitude.shortest (m : Magnitude) : Digits :=
  let i := m.interval
  let (num, den) := scaled i.middle 1 i.exponent
  let top := floorLog10 num den 640 309
  (i.shortestFrom 18 top).trim 18

def decimalDigits (n : Nat) : List Char := Nat.toDigits 10 n

/-- Digits with the point behind the first `place` of them, zeros filled in. -/
def positional (ds : List Char) (place : Int) : List Char :=
  if place ≤ 0 then ['0', '.'] ++ List.replicate (-place).toNat '0' ++ ds
  else
    let whole := place.toNat
    if ds.length ≤ whole then ds ++ List.replicate (whole - ds.length) '0' ++ ['.', '0']
    else ds.take whole ++ ['.'] ++ ds.drop whole

/-- Digits with the point behind the first of them, and a power of ten. -/
def withExponent (ds : List Char) (power : Int) : List Char :=
  ds.take 1 ++ (if ds.length ≤ 1 then [] else '.' :: ds.drop 1) ++ ['e'] ++
    (if power < 0 then ['-'] else []) ++ decimalDigits power.natAbs

/-- The digits, positional from `10 ^ -4` to below `10 ^ 16`. -/
def Digits.layout (d : Digits) : List Char :=
  let ds := decimalDigits d.digits
  let place : Int := d.power + ds.length
  if -4 < place && place ≤ 16 then positional ds place else withExponent ds (place - 1)

/-- The text of a number: the shortest that reads back, with a point or an exponent. -/
def inspect (x : Float) : String :=
  let bits := x.toBits.toNat
  let magnitude := bits % signBit
  let sign : List Char := if signBit ≤ bits then ['-'] else []
  if infinityBits < magnitude then "NaN"
  else if magnitude = infinityBits then String.ofList (sign ++ ['i', 'n', 'f'])
  else if magnitude = 0 then String.ofList (sign ++ ['0', '.', '0'])
  else String.ofList (sign ++ (Magnitude.ofBits magnitude).shortest.layout)

end Descent.Decimal
