import Descent.Proofs.Calculator.Language
import Descent.Proofs.Room

/-!
The calculator under bounds on nesting. Every pair of parentheses costs four levels and two
characters, so that the levels a rule needs are bounded by the characters left. A value that is
found under a bound is found under every higher one, since its derivation fits there too.
-/
namespace Descent.Calculator

open Script

/-- The levels that a callee needs for so many characters, its own among them. -/
def need : Callee Rule → Nat → Nat
  | .token _, _ => 1
  | .rule r, n => 4 * n + r.levels + 1

variable {room n : Nat}

theorem operator?_within (ops : List Operator) (h : 1 ≤ room) :
    (operator? ops).Within need room n := by
  induction ops generalizing n with
  | nil => trivial
  | cons op ops ih => exact within_succeeds h (fun _ _ => trivial) fun m _ => ih

theorem chainRest_within (operand : Rule) (ops : List Operator) (rounds : Nat) (value : Float)
    (h : need (.rule operand) n ≤ room) :
    (chainRest operand ops rounds value).Within need room n := by
  induction rounds generalizing n value with
  | zero => trivial
  | succ rounds ih =>
    have hneed : ∀ m, m ≤ n → need (.rule operand) m ≤ room := by
      intro m hm
      simp only [need] at h ⊢
      omega
    have htoken : 1 ≤ room := by
      simp only [need] at h
      omega
    refine within_bind (operator?_within ops htoken) fun op m hm => ?_
    cases op with
    | none => trivial
    | some op =>
      exact within_parse (hneed m hm) fun next k hk => ih _ (hneed k (by omega))

theorem chain_within (operand : Rule) (ops : List Operator)
    (h : need (.rule operand) n ≤ room) : (chain operand ops).Within need room n := by
  refine within_parse h fun first m hm _ => chainRest_within operand ops _ first ?_
  simp only [need] at h ⊢
  omega

/-- An opening parenthesis has been read before the next expression begins. -/
theorem valueBody_within : valueBody.Within need (4 * n + 1) n := by
  have htoken : ∀ t m, need (.token t) m ≤ 4 * n + 1 := fun _ _ => Nat.le_add_left 1 _
  refine within_skip (htoken _ _) fun m hm => within_log ?_
  refine within_attempt (htoken _ _) fun digits k hk => ?_
  cases digits with
  | ok digits =>
    simp only
    cases Decimal.readFloat? digits.toList with
    | none => exact within_fail _ _
    | some x => exact within_skip (htoken _ _) fun _ _ => trivial
  | error =>
    refine within_succeeds (htoken _ _) (fun j hj => ?_) fun j _ => within_fail _ _
    have hparenthesis : j + 1 ≤ k := hj
    have hexpr : need (.rule .expr) j ≤ 4 * n + 1 := by
      simp only [need, Rule.levels]
      omega
    exact within_parse hexpr fun _ _ _ => within_parse (htoken _ _) fun _ _ _ =>
      within_skip (htoken _ _) fun _ _ => trivial

theorem grammar_within : grammar.Within need := by
  intro c n
  cases c with
  | token t => exact ⟨0, rfl, t.script_within need 0 n⟩
  | rule r =>
    refine ⟨4 * n + r.levels, rfl, ?_⟩
    cases r with
    | expr => exact within_log (within_parse_last (Nat.le_refl _))
    | sum => exact within_log (chain_within _ _ (Nat.le_refl _))
    | product => exact within_log (chain_within _ _ (Nat.le_refl _))
    | value => exact valueBody_within

theorem parseWithin_mono {input : String} {limits : Limits} {limit : Nat} {value : Float}
    (hle : limits.maxDepth ≤ limit)
    (h : grammar.parseWithin (.rule .expr) input limits = .ok value) :
    grammar.parseWithin (.rule .expr) input (limits.withMaxDepth limit) = .ok value := by
  by_cases hlimit : limits.maxDepth < unlimited
  · obtain ⟨t, htext, hdepth, rfl⟩ := (parseWithin_eq_ok_iff input hlimit value).mp h
    exact t.parseWithin_eq htext (Nat.le_trans hdepth hle) (Nat.lt_of_le_of_lt hdepth hlimit)
  · have hfree : unlimited ≤ limits.maxDepth := Nat.le_of_not_lt hlimit
    rw [Grammar.parseWithin_of_unlimited _ _ hfree (Nat.le_trans hfree hle)]
    exact h

end Descent.Calculator
