import Descent.Proofs.Calculator.Viability
import Descent.Proofs.Report

/-!
What the calculator reports. Looking for an operator fails at every end of a chain, and a sum in
parentheses is only tried where no number stands; of all this a failure only tells that no
parenthesis stands where a value must. The induction is on the room for callees. Four rules make a
round, and a value is the last of them, so that a bound of whole rounds never stops at one.
-/
namespace Descent.Calculator

open Script

/-- A value is a number, and then a sum in parentheses. -/
def attempts : List Attempt := [⟨"invalid value", [.pattern number], "("⟩]

/-- With this much room for callees, the failures of all rules are told, where the bound leaves
whole rounds beside their own levels. -/
def FailsTelling (room : Nat) : Prop :=
  ∀ ⦃r : Rule⦄ ⦃s u : Scanner⦄ ⦃f : Failure⦄, s.Ready room → s.Aligned 4 r.levels →
    (body r).run grammar.kindOf (grammar.run room) s = .finished (.error f) u →
    f.Told attempts Reason.words s

section Steps

variable {room : Nat} (ih : ∀ levels, room = levels + 1 → FailsTelling levels) {s u : Scanner}
  {f : Failure}

include ih

theorem call_told {r : Rule} (hs : s.Ready room) (hround : s.Aligned 4 (r.levels + 1))
    (h : s.call .parse (grammar.kindOf (.rule r)) (grammar.run room (.rule r)) [] =
      .finished (.error f) u) : f.Told attempts Reason.words s := by
  rcases Grammar.call_error_exact (g := grammar) (c := .rule r) hs h with
    ⟨-, rfl⟩ | ⟨-, levels, v, hroom, hentered, hdown, hrun⟩
  · exact .of_reason (fun _ hword => hword) _ _
  · exact (ih levels hroom hentered (hround.entered hdown) hrun).of_entered

theorem chainRest_told {operand : Rule} {ops : List Operator} (rounds : Nat) {value : Float}
    (hs : s.Ready room) (hround : s.Aligned 4 (operand.levels + 1))
    (h : (chainRest operand ops rounds value).run grammar.kindOf (grammar.run room) s =
      .finished (.error f) u) : f.Told attempts Reason.words s := by
  induction rounds generalizing s value with
  | zero => cases h
  | succ rounds ihRounds =>
    rcases bind_error_cases h with hread | ⟨found, v, hread, hrun⟩
    · exact absurd hread operator?_not_error
    · have hv := Grammar.run_onward (g := grammar) _ hs.ample.fits hread
      cases found with
      | none => cases hrun
      | some op =>
        rcases parse_error_cases hrun with ⟨w, hcall⟩ | ⟨next, w, hcall, hrun⟩
        · exact (call_told ih (hv.ready hs) (hround.onward hv) hcall).behind hv
        · have hw := hv.trans
            (Grammar.call_onward (grammar.calleesOnward room) (hv.ready hs).ample.fits hcall)
          exact (ihRounds (hw.ready hs) (hround.onward hw) hrun).behind hw

theorem chain_told {operand : Rule} {ops : List Operator} (hs : s.Ready room)
    (hround : s.Aligned 4 (operand.levels + 1))
    (h : (chain operand ops).run grammar.kindOf (grammar.run room) s = .finished (.error f) u) :
    f.Told attempts Reason.words s := by
  rcases parse_error_cases h with ⟨v, hcall⟩ | ⟨first, v, hcall, hrun⟩
  · exact call_told ih hs hround hcall
  · have hv := Grammar.call_onward (grammar.calleesOnward room) hs.ample.fits hcall
    exact (chainRest_told ih _ (hv.ready hs) (hround.onward hv) (get_of_run hrun)).behind hv

theorem valueBody_told (hs : s.Ready room) (hround : s.Aligned 4 Rule.value.levels)
    (h : valueBody.run grammar.kindOf (grammar.run room) s = .finished (.error f) u) :
    f.Told attempts Reason.words s := by
  cases valueBody_error_cases hs h with
  | inside before t v honward hrest hcall =>
    have hround' : t.Aligned 4 (Rule.expr.levels + 1) := hround.around.onward honward
    exact (call_told ih (honward.ready hs) hround' hcall).behind honward
  | unclosed before sum t reason honward hrest hdepth hmissed hf =>
    rw [hf]
    exact .of_reason (fun _ hword => hword) _ reason
  | unknown before t reason honward hrest hnumber hmissed hf =>
    rw [hf]
    have hadmits :=
      (hround.onward honward).admits (honward.ready hs).within (by decide) (by decide)
    refine (Failure.Told.of_missed List.mem_cons_self hadmits (fun t ht => ?_) hmissed).behind
      honward
    rw [List.mem_singleton.mp ht]
    exact hnumber

end Steps

theorem telling_step {room : Nat} (ih : ∀ levels, room = levels + 1 → FailsTelling levels) :
    FailsTelling room := by
  intro r s u f hs hround h
  have hnoted : ∀ message, s.Onward (s.note message) := s.onward_note
  cases r with
  | expr =>
    have hs' := hnoted "parsing expr"
    obtain ⟨result, v, hcall, hrun⟩ := call_of_run (note_of_run h)
    cases result with
    | ok => cases hrun
    | error failure =>
      cases hrun
      exact (call_told ih (r := .sum) (hs'.ready hs) (hround.onward hs') hcall).behind hs'
  | sum =>
    have hs' := hnoted "parsing sum"
    have hround' : (s.note "parsing sum").Aligned 4 (Rule.product.levels + 1) := hround.onward hs'
    exact (chain_told ih (hs'.ready hs) hround' (note_of_run h)).behind hs'
  | product =>
    have hs' := hnoted "parsing product"
    have hround' : (s.note "parsing product").Aligned 4 (Rule.value.levels + 1) :=
      hround.onward hs'
    exact (chain_told ih (hs'.ready hs) hround' (note_of_run h)).behind hs'
  | value => exact valueBody_told ih hs hround h

theorem fails_telling (room : Nat) : FailsTelling room := by
  induction room with
  | zero => exact telling_step fun levels hlevels => absurd hlevels (by omega)
  | succ room ih =>
    refine telling_step fun levels hlevels => ?_
    obtain rfl : levels = room := by omega
    exact ih

end Descent.Calculator
