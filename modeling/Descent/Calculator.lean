import Descent.Parsing

/-!
A calculator. Sums and products associate to the left, products bind tighter, and a value is a
number or a sum in parentheses, with blanks on both sides. The grammar computes while it parses:
each rule yields the number that its text denotes.
-/
namespace Descent.Calculator

open Script

inductive Operator
  | add
  | sub
  | mul
  | div
deriving DecidableEq

namespace Operator

def symbol : Operator → String
  | add => "+"
  | sub => "-"
  | mul => "*"
  | div => "/"

def apply : Operator → Float → Float → Float
  | add, x, y => x + y
  | sub, x, y => x - y
  | mul, x, y => x * y
  | div, x, y => x / y

/-- The operators of a sum, in the order in which they are tried. -/
def additive : List Operator := [add, sub]

def multiplicative : List Operator := [mul, div]

end Operator

inductive Rule
  | expr
  | sum
  | product
  | value
deriving DecidableEq

abbrev Yield : Rule → Type := fun _ => Float

/-- Digits, and a fraction if a digit follows the point. -/
def number : Pattern := (Pattern.compile? "[0-9]+(?:\\.[0-9]+)?").get (by decide +kernel)

def blanks : Token := .anyOf " \t\r\n"

/-- Reads the first operator of a list that comes next. -/
def operator? : List Operator → Script Yield (Option Operator)
  | [] => return none
  | op :: ops => do
    if ← succeeds (.token (.literal op.symbol)) then return some op else operator? ops

/-- The operators and operands behind a first operand, folded from the left. Every round but
the last reads an operator, so that there are no more rounds than characters left, and one. -/
def chainRest (operand : Rule) (ops : List Operator) : Nat → Float → Script Yield Float
  | 0, value => return value
  | rounds + 1, value => do
    match ← operator? ops with
    | none => return value
    | some op =>
      let next ← parse (.rule operand)
      chainRest operand ops rounds (op.apply value next)

def chain (operand : Rule) (ops : List Operator) : Script Yield Float := do
  let first ← parse (.rule operand)
  let rest ← get .remaining
  chainRest operand ops (rest.length + 1) first

def valueBody : Script Yield Float := do
  skip (.token blanks)
  log "parsing value"
  match ← attempt (.token (.pattern number)) [] with
  | .ok digits =>
    match Decimal.readFloat? digits.toList with
    | none => fail "invalid float literal"
    | some x =>
      skip (.token blanks)
      return x
  | .error _ =>
    if ← succeeds (.token (.literal "(")) then
      let inner ← parse (.rule .expr)
      let _ ← parse (.token (.literal ")"))
      skip (.token blanks)
      return inner
    else fail "invalid value"

def body : (r : Rule) → Script Yield (Yield r)
  | .expr => do
    log "parsing expr"
    parse (.rule .sum)
  | .sum => do
    log "parsing sum"
    chain .product Operator.additive
  | .product => do
    log "parsing product"
    chain .value Operator.multiplicative
  | .value => valueBody

def grammar : Grammar := ⟨Rule, Yield, fun _ => "f64", body⟩

inductive Error
  | emptyInput
  | fault (f : Fault)

def Error.message : Error → String
  | emptyInput => "input is empty"
  | fault f => f.message

/-- The number that a text denotes. A text of blanks is not even parsed. -/
def evaluate (text : String) : Except Error Float :=
  if text.toList.all Text.isBlank then .error .emptyInput
  else (grammar.parse (.rule .expr) text).mapError .fault

end Descent.Calculator
