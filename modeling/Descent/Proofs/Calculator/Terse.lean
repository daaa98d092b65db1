import Descent.Proofs.Terse
import Descent.Calculator

/-!
The calculator is terse: its messages are fixed.
-/
namespace Descent.Calculator

open Script

theorem operator?_terse (ops : List Operator) : (operator? ops).Terse fun _ => True := by
  induction ops with
  | nil => trivial
  | cons op ops ih =>
    refine (terse_succeeds _).bind fun found _ => ?_
    cases found with
    | true => trivial
    | false => exact ih

theorem chainRest_terse (operand : Rule) (ops : List Operator) (rounds : Nat) (value : Float) :
    (chainRest operand ops rounds value).Terse fun _ => True := by
  induction rounds generalizing value with
  | zero => trivial
  | succ rounds ih =>
    refine (operator?_terse ops).bind fun op _ => ?_
    cases op with
    | none => trivial
    | some op => exact (terse_parse _).bind fun next _ => ih _

theorem chain_terse (operand : Rule) (ops : List Operator) :
    (chain operand ops).Terse fun _ => True :=
  (terse_parse _).bind fun first _ _ _ => chainRest_terse operand ops _ first

theorem valueBody_terse : valueBody.Terse fun _ => True := by
  refine (terse_skip _).bind fun _ _ => ⟨by decide, terse_attempt.bind fun result _ => ?_⟩
  cases result with
  | ok digits =>
    dsimp only
    cases Decimal.readFloat? (String.toList digits) with
    | none => exact terse_fail (by decide)
    | some x => exact (terse_skip _).bind fun _ _ => trivial
  | error f =>
    refine (terse_succeeds _).bind fun found _ => ?_
    cases found with
    | true =>
      exact (terse_parse _).bind fun inner _ => (terse_parse _).bind fun _ _ =>
        (terse_skip _).bind fun _ _ => trivial
    | false => exact terse_fail (by decide)

theorem grammar_terse : grammar.Terse := by
  intro r
  cases r with
  | expr => exact ⟨by decide, terse_parse _⟩
  | sum => exact ⟨by decide, chain_terse _ _⟩
  | product => exact ⟨by decide, chain_terse _ _⟩
  | value => exact valueBody_terse

end Descent.Calculator
