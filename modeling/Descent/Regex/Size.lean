import Descent.Regex.Expression

/-!
How large a machine for an expression would be: one that has a state for every byte that may be
read, every assertion, both ends of every group, and every choice, with counted repetition spelled
out. Expressions whose machine would not fit into a set amount of memory are refused.
-/
namespace Descent.Regex

open Text (CharSet Intervals)

def stateSize : Nat := 32

/-- Intervals of the digits, in base 64, of the numbers in an interval, from the highest of
`places + 1` digits on. Each row of intervals holds all numbers with digits in them. -/
def digitRows : Nat → Nat → Nat → List Intervals
  | 0, low, high => [[(low, high)]]
  | places + 1, low, high =>
    let unit := 64 <<< (6 * places)
    let (a, b) := (low / unit, high / unit)
    if a = b then (digitRows places (low % unit) (high % unit)).map ((a, a) :: ·)
    else
      let startsWhole := low % unit = 0
      let endsWhole := high % unit = unit - 1
      let first := if startsWhole then a else a + 1
      let last := if endsWhole then b + 1 else b
      (if startsWhole then []
        else (digitRows places (low % unit) (unit - 1)).map ((a, a) :: ·)) ++
        (if first < last then (digitRows places 0 (unit - 1)).map ((first, last - 1) :: ·)
          else []) ++
        (if endsWhole then [] else (digitRows places 0 (high % unit)).map ((b, b) :: ·))

/-- Code points by the number of bytes behind the first that their form takes. -/
def formRanges : List (Nat × Nat × Nat) :=
  [(0, 0x00, 0x7f), (1, 0x80, 0x7ff), (2, 0x800, 0xd7ff), (2, 0xe000, 0xffff),
    (3, 0x10000, 0x10ffff)]

/-- Rows of byte intervals that the characters of a set are written with; the number of bytes
that follow marks the first one. -/
def byteRows (s : CharSet) : List (Nat × Intervals) :=
  s.ranges.flatMap fun (low, high) =>
    formRanges.flatMap fun (places, first, last) =>
      if max low first ≤ min high last then
        (digitRows places (max low first) (min high last)).map (places, ·)
      else []

/-- The states that a row of intervals needs beside those of the row before it. -/
def newStates : Option (Nat × Intervals) → Nat × Intervals → Nat
  | none, (_, row) => row.length
  | some (places', row'), (places, row) =>
    if places = places' then
      row.length - ((row.zip row').takeWhile fun (r, r') => r = r').length
    else row.length

/-- The size of a set: the states of its rows, with a common front kept once. -/
def rowsSize : Option (Nat × Intervals) → List (Nat × Intervals) → Nat
  | _, [] => 0
  | previous, row :: rows =>
    stateSize * newStates previous row + 4 + rowsSize (some row) rows

def setSize (s : CharSet) : Nat :=
  match s.ranges with
  | [(low, high)] =>
    if low = high then stateSize * (Char.ofNat low).utf8Size
    else if high < 0x80 then 2 * stateSize + 8
    else 2 * stateSize + rowsSize none (byteRows s)
  | ranges =>
    if ranges.all fun r => r.2 < 0x80 then 2 * stateSize + 8 * ranges.length
    else 2 * stateSize + rowsSize none (byteRows s)

namespace Expression

/-- The size of an expression. `branch` holds for the branches of a choice, which is counted
once for all of them. -/
def size (branch : Bool) : Expression → Nat
  | empty | require _ => stateSize + if branch then 4 else 0
  | oneOf set => setSize set + if branch then 4 else 0
  | group _ body => 2 * stateSize + body.size false + if branch then 4 else 0
  | seq first second => first.size false + second.size false + if branch then 4 else 0
  | either first second =>
    first.size true + second.size true + if branch then 0 else 2 * stateSize
  | repeated least most _ body =>
    let one := body.size false
    let counted :=
      match most with
      | some most =>
        if most = least then if least = 0 then stateSize else least * one
        else if least = 0 && most = 1 then one + 2 * stateSize + 8
        else
          (if least = 0 then stateSize else least * one) + stateSize +
            (most - least) * (one + stateSize + 8)
      | none =>
        if least = 0 then if body.consumes then one + stateSize + 8 else one + 3 * stateSize + 16
        else least * one + stateSize + 8
    counted + if branch then 4 else 0

/-- The memory that a machine may take: ten times two to the twentieth bytes. -/
def maxSize : Nat := 10485760

/-- Whether the machine of a whole pattern fits: beside the expression it has an entry, both ends
of the match, and a state that accepts. -/
def fits (e : Expression) : Bool := e.size false + 4 * stateSize ≤ maxSize

end Expression

end Descent.Regex
