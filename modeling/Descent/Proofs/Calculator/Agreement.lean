import Descent.Proofs.Agreement
import Descent.Calculator

/-!
The calculator, side by side with itself. Its scripts use a place for nothing but a failure, so
that they agree with themselves under every correspondence of places.
-/
namespace Descent.Calculator

open Script

variable {k : Correspondence}

theorem operator?_agrees (ops : List Operator) : (operator? ops).Agrees k (operator? ops) := by
  induction ops with
  | nil => exact .done none
  | cons op ops ih =>
    refine (agrees_succeeds _).bind fun found => ?_
    cases found with
    | true => exact .done (some op)
    | false => exact ih

theorem chainRest_agrees (operand : Rule) (ops : List Operator) (rounds : Nat) (value : Float) :
    (chainRest operand ops rounds value).Agrees k (chainRest operand ops rounds value) := by
  induction rounds generalizing value with
  | zero => exact .done value
  | succ rounds ih =>
    refine (operator?_agrees ops).bind fun op => ?_
    cases op with
    | none => exact .done value
    | some op => exact (agrees_parse _).bind fun next => ih _

theorem chain_agrees (operand : Rule) (ops : List Operator) :
    (chain operand ops).Agrees k (chain operand ops) := by
  refine (agrees_parse _).bind fun first => agrees_get fun a b hab => ?_
  obtain rfl : a = b := hab
  exact chainRest_agrees operand ops _ first

theorem valueBody_agrees : valueBody.Agrees k valueBody := by
  refine (agrees_skip _).bind fun _ => .note _ _ (agrees_attempt fun a b hab => ?_)
  cases hab with
  | ok digits =>
    dsimp only
    cases Decimal.readFloat? (String.toList digits) with
    | none => exact agrees_fail _
    | some x => exact (agrees_skip _).bind fun _ => .done x
  | error =>
    refine (agrees_succeeds _).bind fun found => ?_
    cases found with
    | true =>
      exact (agrees_parse _).bind fun inner => (agrees_parse _).bind fun _ =>
        (agrees_skip _).bind fun _ => .done inner
    | false => exact agrees_fail _

/-- The calculator uses a place for nothing but a failure. -/
theorem body_agrees (r : Rule) : (body r).Agrees k (body r) := by
  cases r with
  | expr => exact .note _ _ (agrees_parse _)
  | sum => exact .note _ _ (chain_agrees _ _)
  | product => exact .note _ _ (chain_agrees _ _)
  | value => exact valueBody_agrees

end Descent.Calculator
