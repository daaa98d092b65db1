import Descent.Proofs.Calculator.Bounds
import Descent.Proofs.Refusal

/-!
Sums that nest too deeply. Where a derivation does not fit under the bound, the run reads what
stands in front of the place that does not fit and fails there. Every rule of the calculator
passes the failure of its operand on, and a value at the bound has tried the parenthesis last, so
that the failure always says that the bound was exceeded.
-/
namespace Descent.Calculator

open Script

variable {room : Nat} {s : Scanner}

/-- The outcome says that the bound of the scanner was exceeded. -/
abbrev Refused {α : Type} (s : Scanner) (o : Outcome α) : Prop :=
  o.FailsWith (Failure.NamesBound s.limits.maxDepth)

/-- At the bound a value tries blanks, a number and a parenthesis, and all of them are refused. -/
theorem valueBody_at_bound (hs : s.Ample room) (hbound : s.depth = s.limits.maxDepth) :
    Refused s (valueBody.run grammar.kindOf (grammar.run room) s) := by
  obtain ⟨t, hskip, ht, -⟩ :=
    Grammar.call_at_bound (g := grammar) hs hbound .skip (.token blanks) []
  have hnote := ht.trans (t.onward_note "parsing value")
  obtain ⟨u, hnumber, hu, -⟩ := Grammar.call_at_bound (g := grammar) (hnote.frame.ample hs)
    (hnote.at_bound hbound) .parse (.token (.pattern number)) []
  have hsu := hnote.trans hu
  obtain ⟨v, hopen, hv, -⟩ := Grammar.call_at_bound (g := grammar) (hsu.frame.ample hs)
    (hsu.at_bound hbound) .parse (.token (.literal "(")) []
  have hrun : valueBody.run grammar.kindOf (grammar.run room) s =
      (fail "invalid value" : Script Yield Float).run grammar.kindOf (grammar.run room) v :=
    (run_call hskip).trans ((run_call hnumber).trans (run_call hopen))
  have hrecord := Scanner.lastFailure_of_call hopen
  refine ⟨⟨v.location, "invalid value", v.lastFailure⟩, v, hrun, ?_⟩
  rw [hrecord, ← hsu.frame.limits]
  exact (Failure.namesBound_tooDeep _ _).caused _ _

namespace Tree

/-- Where the text does not fit under the bound, the rule fails and says so. -/
def TooDeep {r : Rule} (t : Tree r) : Prop :=
  ∀ ⦃room : Nat⦄ ⦃s : Scanner⦄ ⦃rest : List Char⦄, s.Ample room → s.depth ≤ s.limits.maxDepth →
    s.limits.maxDepth < s.depth + (4 * t.nesting + r.levels) → s.rest = t.text ++ rest →
    r.Follows rest → Refused s ((body r).run grammar.kindOf (grammar.run room) s)

/-- The same of a chain, also where more operands follow. -/
def ChainTooDeep {whole : Rule} (t : Tree whole) : Prop :=
  ∀ ⦃operand : Rule⦄ ⦃ops : List Operator⦄ ⦃room : Nat⦄ ⦃s : Scanner⦄ ⦃rest : List Char⦄,
    Links operand whole ops → s.Ample room → s.depth ≤ s.limits.maxDepth →
    s.limits.maxDepth < s.depth + (4 * t.nesting + whole.levels) → s.rest = t.text ++ rest →
    operand.Follows rest →
    Refused s ((chain operand ops).run grammar.kindOf (grammar.run room) s)

theorem TooDeep.parse_refused {r : Rule} {t : Tree r} (ht : t.TooDeep) {α : Type}
    {next : Float → Script Yield α} {rest : List Char} (hs : s.Ample room)
    (hle : s.depth ≤ s.limits.maxDepth)
    (hdeep : s.limits.maxDepth < s.depth + (4 * t.nesting + r.levels + 1))
    (hrest : s.rest = t.text ++ rest) (hfollows : r.Follows rest) :
    Refused s ((parse (.rule r) >>= next).run grammar.kindOf (grammar.run room) s) := by
  by_cases hbound : s.depth = s.limits.maxDepth
  · exact Grammar.parse_at_bound (g := grammar) hs hbound (.rule r) next
  · refine Grammar.parse_failsWith (g := grammar) (c := .rule r) hs (by omega) ?_ next
    intro levels hentered hdepth
    have hlimits : (s.entered []).limits = s.limits := rfl
    refine ht hentered ?_ ?_ hrest hfollows
    · rw [hdepth, hlimits]
      omega
    · rw [hdepth, hlimits]
      omega

theorem chainTooDeep_lone {operand whole : Rule} {ops : List Operator}
    (h : Links operand whole ops) {t : Tree operand} (ht : t.TooDeep) :
    (lone h t).ChainTooDeep := by
  intro operand' ops' room s rest h' hs hle hdeep hrest hfollows
  obtain ⟨rfl, rfl⟩ := h.unique h'
  rw [h.levels] at hdeep
  exact ht.parse_refused hs hle hdeep hrest hfollows

theorem chainTooDeep_more {operand whole : Rule} {ops : List Operator}
    (h : Links operand whole ops) {t : Tree whole} {op : Operator} (hop : op ∈ ops)
    {u : Tree operand} (ht : t.ChainTooDeep) (hu : u.TooDeep) :
    (more h t op hop u).ChainTooDeep := by
  intro operand' ops' room s rest h' hs hle hdeep hrest hfollows
  obtain ⟨rfl, rfl⟩ := h.unique h'
  rw [text, List.append_assoc, List.append_assoc] at hrest
  have hlevels := h.levels
  have hsum : (more h t op hop u).nesting = max t.nesting u.nesting := rfl
  by_cases hfits : s.depth + (4 * t.nesting + whole.levels) ≤ s.limits.maxDepth
  · -- the shorter chain is read with its operator, and the operand behind it does not fit
    have hallows := hs.allows hfits
    obtain ⟨rounds, v, hrounds, honward, hv, hrun⟩ :=
      t.chained h hallows hrest (h.follows_operator hop _)
    obtain ⟨n, rfl⟩ : ∃ n, rounds = n + 1 := ⟨rounds - 1, by omega⟩
    obtain ⟨w, hread, honward', hw⟩ :=
      operator?_some ((honward.frame.allows hallows).mono (by omega : 0 + 1 ≤ _)) hop hv
    have hsw := honward.trans honward'
    have hrun' : (chain operand ops).run grammar.kindOf (grammar.run room) s =
        (parse (.rule operand) >>= fun next => chainRest operand ops n (op.apply t.value next) :
          Script Yield Float).run grammar.kindOf (grammar.run room) w :=
      hrun.trans (run_bind_of_ok hread)
    have hdepth := hsw.frame.depth
    have hlimits := hsw.frame.limits
    rw [hrun']
    change Outcome.FailsWith (Failure.NamesBound s.limits.maxDepth) _
    rw [← hlimits]
    refine hu.parse_refused (hsw.frame.ample hs) ?_ ?_ hw hfollows
    · rw [hdepth, hlimits]
      exact hle
    · rw [hdepth, hlimits]
      omega
  · exact ht h hs hle (by omega) hrest (h.follows_operator hop _)

theorem ChainTooDeep.tooDeep {operand whole : Rule} {ops : List Operator}
    (h : Links operand whole ops) {t : Tree whole} (ht : t.ChainTooDeep) : t.TooDeep := by
  intro room s rest hs hle hdeep hrest hfollows
  obtain ⟨message, hbody⟩ : ∃ message, body whole = note message (chain operand ops) := by
    cases h with
    | sum => exact ⟨_, rfl⟩
    | product => exact ⟨_, rfl⟩
  have hnote := s.onward_note message
  rw [hbody]
  exact ht h (hnote.frame.ample hs) hle hdeep hrest (h.follows hfollows)

theorem tooDeep_number (before : Blanks) (n : Numeral) (after : Blanks) :
    (number before n after).TooDeep := by
  intro room s rest hs hle hdeep hrest hfollows
  have hbound : s.depth = s.limits.maxDepth := by
    change s.limits.maxDepth < s.depth + (4 * 0 + 1) at hdeep
    omega
  exact valueBody_at_bound hs hbound

theorem TooDeep.expr_refused {t : Tree .sum} (ht : t.TooDeep) {rest : List Char}
    (hs : s.Ample room) (hle : s.depth ≤ s.limits.maxDepth)
    (hdeep : s.limits.maxDepth < s.depth + (4 * t.nesting + Rule.expr.levels))
    (hrest : s.rest = t.text ++ rest) (hfollows : Rule.sum.Follows rest) :
    Refused s ((body .expr).run grammar.kindOf (grammar.run room) s) := by
  have hnote := s.onward_note "parsing expr"
  have hbody : (body .expr).run grammar.kindOf (grammar.run room) s =
      (parse (.rule .sum) >>= pure : Script Yield Float).run grammar.kindOf (grammar.run room)
        (s.note "parsing expr") := by
    rw [bind_pure]
    rfl
  rw [hbody]
  exact ht.parse_refused (hnote.frame.ample hs) hle hdeep hrest hfollows

theorem tooDeep_group (before : Blanks) {inner : Tree .sum} (hinner : inner.TooDeep)
    (after : Blanks) : (group before inner after).TooDeep := by
  intro room s rest hs hle hdeep hrest hfollows
  by_cases hbound : s.depth = s.limits.maxDepth
  · exact valueBody_at_bound hs hbound
  · have hrest' : s.rest =
        before.text ++ ("(".toList ++ (inner.text ++ (")".toList ++ (after.text ++ rest)))) := by
      rw [hrest, text]
      simp
    have hallows : s.Allows room (0 + 1) := hs.allows (by omega)
    obtain ⟨u, honward, hu, hrun⟩ := valueBody_opened hallows before hrest'
    have hdepth := honward.frame.depth
    have hlimits := honward.frame.limits
    change Refused s (valueBody.run grammar.kindOf (grammar.run room) s)
    rw [hrun]
    change Outcome.FailsWith (Failure.NamesBound s.limits.maxDepth) _
    rw [← hlimits]
    refine Grammar.parse_failsWith (g := grammar) (c := .rule .expr) (honward.frame.ample hs)
      ?_ ?_ _
    · rw [hdepth, hlimits]
      omega
    · intro levels hentered hdown
      have hsame : (u.entered []).limits = s.limits := hlimits
      refine hinner.expr_refused hentered ?_ ?_ hu ?_
      · rw [hdown, hdepth, hsame]
        omega
      · rw [hdown, hdepth, hsame]
        change s.limits.maxDepth < s.depth + 1 + (4 * inner.nesting + 4)
        change s.limits.maxDepth < s.depth + (4 * (inner.nesting + 1) + 1) at hdeep
        omega
      · intro c hc
        cases hc
        exact List.mem_cons_self

theorem tooDeep {r : Rule} (t : Tree r) : t.TooDeep := by
  have h : t.TooDeep ∧ t.ChainTooDeep := by
    induction t with
    | number before n after =>
      refine ⟨tooDeep_number before n after, ?_⟩
      intro operand ops room s rest h
      cases h
    | group before inner after ih =>
      refine ⟨tooDeep_group before ih.1 after, ?_⟩
      intro operand ops room s rest h
      cases h
    | lone h t ih =>
      have hchain := chainTooDeep_lone h ih.1
      exact ⟨hchain.tooDeep h, hchain⟩
    | more h t op hop u iht ihu =>
      have hchain := chainTooDeep_more h hop iht.2 ihu.1
      exact ⟨hchain.tooDeep h, hchain⟩
  exact h.1

end Tree

end Descent.Calculator
