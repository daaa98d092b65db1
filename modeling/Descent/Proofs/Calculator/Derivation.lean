import Descent.Calculator
import Descent.Proofs.Numerals

/-!
Derivations in the language of the calculator. Sums are made of products, products of values, and
values of numbers and of sums in parentheses, with blanks on both sides. A sum or a product is an
operand, or a shorter one with an operator and one more operand behind it: so the derivation
itself associates to the left, and its value is the fold of its operands from the left.
-/
namespace Descent.Calculator

open Decimal (DigitRun fractionText)

/-- What may stand around a value. -/
structure Blanks where
  text : List Char
  all : ∀ c ∈ text, c ∈ [' ', '\t', '\r', '\n']

structure Numeral where
  whole : DigitRun
  fraction : Option DigitRun

namespace Numeral

def text (n : Numeral) : List Char := n.whole.text ++ fractionText n.fraction

theorem readFloat?_isSome (n : Numeral) : (Decimal.readFloat? n.text).isSome = true := by
  have h := Decimal.readFloat?_isSome false n.whole n.fraction (Or.inl rfl)
  simpa only [text, if_false, Bool.false_eq_true, List.nil_append, List.append_nil] using h

def value (n : Numeral) : Float := (Decimal.readFloat? n.text).get n.readFloat?_isSome

end Numeral

/-- Which rule gives the operands of a rule, and which operators stand between them. -/
inductive Links : Rule → Rule → List Operator → Prop
  | sum : Links .product .sum Operator.additive
  | product : Links .value .product Operator.multiplicative

/-- Derivations of the texts of a rule. -/
inductive Tree : Rule → Type
  | number (before : Blanks) (n : Numeral) (after : Blanks) : Tree .value
  | group (before : Blanks) (inner : Tree .sum) (after : Blanks) : Tree .value
  | lone {operand whole : Rule} {ops : List Operator} (h : Links operand whole ops)
      (t : Tree operand) : Tree whole
  | more {operand whole : Rule} {ops : List Operator} (h : Links operand whole ops)
      (t : Tree whole) (op : Operator) (hop : op ∈ ops) (u : Tree operand) : Tree whole

namespace Tree

def text {r : Rule} : Tree r → List Char
  | number before n after => before.text ++ (n.text ++ after.text)
  | group before inner after => before.text ++ ('(' :: (inner.text ++ (')' :: after.text)))
  | lone _ t => t.text
  | more _ t op _ u => t.text ++ (op.symbol.toList ++ u.text)

def value {r : Rule} : Tree r → Float
  | number _ n _ => n.value
  | group _ inner _ => inner.value
  | lone _ t => t.value
  | more _ t op _ u => op.apply t.value u.value

def nesting {r : Rule} : Tree r → Nat
  | number _ _ _ => 0
  | group _ inner _ => inner.nesting + 1
  | lone _ t => t.nesting
  | more _ t _ _ u => max t.nesting u.nesting

end Tree

/-- The levels that a rule needs beside those of the parentheses in it: its own callees down to
the tokens. -/
def Rule.levels : Rule → Nat
  | expr => 4
  | sum => 3
  | product => 2
  | value => 1

theorem Links.levels {operand whole : Rule} {ops : List Operator} (h : Links operand whole ops) :
    whole.levels = operand.levels + 1 := by
  cases h <;> rfl

theorem Links.unique {operand operand' whole : Rule} {ops ops' : List Operator}
    (h : Links operand whole ops) (h' : Links operand' whole ops') :
    operand = operand' ∧ ops = ops' := by
  cases h <;> cases h' <;> exact ⟨rfl, rfl⟩

def Operator.mark : Operator → Char
  | add => '+'
  | sub => '-'
  | mul => '*'
  | div => '/'

theorem Operator.symbol_toList (op : Operator) : op.symbol.toList = [op.mark] := by
  cases op <;> rfl

theorem Operator.mark_injective {op op' : Operator} (h : op.mark = op'.mark) : op = op' := by
  cases op <;> cases op' <;> first | rfl | exact absurd h (by decide)

/-- The characters that may follow the texts of a rule. -/
def Rule.follow : Rule → List Char
  | expr => [')']
  | sum => [')']
  | product => [')', '+', '-']
  | value => [')', '+', '-', '*', '/']

def Rule.Follows (r : Rule) (rest : List Char) : Prop := ∀ c ∈ rest.head?, c ∈ r.follow

theorem Rule.follows_nil (r : Rule) : r.Follows [] := by
  intro c hc
  cases hc

namespace Links

variable {operand whole : Rule} {ops : List Operator}

/-- What follows a chain also follows its last operand. -/
theorem follows (h : Links operand whole ops) {rest : List Char} (hrest : whole.Follows rest) :
    operand.Follows rest := by
  have hsubset : whole.follow ⊆ operand.follow := by
    cases h <;> decide
  exact fun c hc => hsubset (hrest c hc)

theorem follows_operator (h : Links operand whole ops) {op : Operator} (hop : op ∈ ops)
    (rest : List Char) : operand.Follows (op.symbol.toList ++ rest) := by
  have hmark : ∀ op ∈ ops, op.mark ∈ operand.follow := by
    cases h <;> decide
  rw [op.symbol_toList]
  intro c hc
  cases hc
  exact hmark op hop

/-- No operator of a chain follows it. -/
theorem not_operator (h : Links operand whole ops) {rest : List Char}
    (hrest : whole.Follows rest) {op : Operator} (hop : op ∈ ops) :
    op.symbol.toList.isPrefixOf rest = false := by
  have hmark : ∀ op ∈ ops, op.mark ∉ whole.follow := by
    cases h <;> decide
  rw [op.symbol_toList]
  cases rest with
  | nil => rfl
  | cons c cs =>
    have hne : op.mark ≠ c := by
      rintro rfl
      exact hmark op hop (hrest _ rfl)
    simp [List.isPrefixOf, hne]

end Links

end Descent.Calculator
