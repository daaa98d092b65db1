import Descent.Proofs.Calculator.Derivation

/-!
The tokens of the calculator. The pattern for numbers takes a numeral, as far as one goes, blanks
take all that stand next, and of the operators of a rule the one that stands next is read.
-/
namespace Descent.Calculator

open Script
open Text (Avoids)
open Decimal (digitsNode fractionNode)

def numberNode : Regex.Node :=
  .seq (digitsNode [0, 0, 0, 1]) (fractionNode [0, 0, 1, 1] [0, 0, 1, 0, 1, 1, 1])

theorem number_munches : number.Munches numberNode :=
  ⟨by decide +kernel, by decide +kernel, by decide +kernel, by decide +kernel⟩

/-- A numeral is taken as a whole in front of what does not go on with it. -/
theorem takes_numeral (n : Numeral) {rest : List Char} (hdigit : Avoids Char.isDigit rest)
    (hpoint : Avoids (· == '.') rest) :
    (Token.pattern number).Takes (n.text ++ rest) (String.ofList n.text) rest := by
  refine Token.takes_pattern number_munches ?_
  have hdigits := (Decimal.munch_digits_iff [0, 0, 0, 1] _ _).mpr
    ⟨n.whole, rfl, Decimal.avoids_fraction n.fraction hdigit⟩
  rw [Numeral.text, List.append_assoc, numberNode, Regex.Node.munch, hdigits, Option.bind_some]
  exact Decimal.munch_fraction _ _ n.fraction hdigit hpoint

theorem numeral_of_takes {text rest : List Char} {value : String}
    (h : (Token.pattern number).Takes text value rest) :
    ∃ n : Numeral, text = n.text ++ rest ∧ value.toList = n.text := by
  obtain ⟨hmunch, front, rfl, rfl⟩ := Token.munch_of_takes number_munches h
  obtain ⟨mid, hmid, hrest⟩ := Option.bind_eq_some_iff.mp hmunch
  obtain ⟨d, hdigits, -⟩ := (Decimal.munch_digits_iff _ _ _).mp hmid
  obtain ⟨fraction, rfl⟩ := Decimal.fraction_of_munch hrest
  rw [← List.append_assoc] at hdigits
  have hfront : front = d.text ++ Decimal.fractionText fraction :=
    List.append_cancel_right hdigits
  refine ⟨⟨d, fraction⟩, ?_, ?_⟩
  · rw [hfront]
    rfl
  · rw [String.toList_ofList, hfront]
    rfl

theorem refuses_numeral {text : List Char} (h : Avoids Char.isDigit text) :
    (Token.pattern number).Refuses text := by
  refine Token.refuses_pattern number_munches ?_
  rw [numberNode, Regex.Node.munch, Decimal.munch_digits_eq_none _ h, Option.bind_none]

theorem blank_iff (c : Char) :
    " \t\r\n".toList.contains c = true ↔ c ∈ [' ', '\t', '\r', '\n'] := by
  rw [List.contains_iff_mem]
  rfl

variable {room : Nat} {s : Scanner}

/-- Blanks in front of what is none are skipped. -/
theorem skip_blanks {height : Nat} (hs : s.Allows room (height + 1)) (b : Blanks)
    {rest : List Char} (hrest : s.rest = b.text ++ rest)
    (h : Avoids (" \t\r\n".toList.contains ·) rest) :
    ∃ u, s.call .skip (grammar.kindOf (.token blanks)) (grammar.run room (.token blanks)) [] =
      .finished (.ok ()) u ∧ s.Onward u ∧ u.rest = rest := by
  obtain ⟨value, u, hcall⟩ := Grammar.skip_passes (g := grammar) (Token.passes_anyOf _) hs hrest
    (fun c hc => (blank_iff c).mpr (b.all c hc)) h
  exact ⟨u, hcall⟩

/-- However skipping blanks ends, what was skipped are blanks. -/
theorem blanks_of_run {α : Type} {end' : Except Failure α} {u : Scanner} (hs : s.Fits room)
    {f : Unit → Script Yield α}
    (h : (skip (.token blanks) >>= f).run grammar.kindOf (grammar.run room) s =
      .finished end' u) :
    ∃ (b : Blanks) (v : Scanner), s.rest = b.text ++ v.rest ∧ s.Onward v ∧
      (f ()).run grammar.kindOf (grammar.run room) v = .finished end' u := by
  obtain ⟨front, v, hfront, hrest⟩ :=
    Grammar.skip_of_run (g := grammar) (Token.passes_anyOf _) hs h
  exact ⟨⟨front, fun c hc => (blank_iff c).mp (hfront c hc)⟩, v, hrest⟩

theorem operator?_some {height : Nat} (hs : s.Allows room (height + 1)) {ops : List Operator}
    {op : Operator} (hop : op ∈ ops) {rest : List Char}
    (hrest : s.rest = op.symbol.toList ++ rest) :
    ∃ u, (operator? ops).run grammar.kindOf (grammar.run room) s = .finished (.ok (some op)) u ∧
      s.Onward u ∧ u.rest = rest := by
  induction ops generalizing s with
  | nil => cases hop
  | cons first ops ih =>
    by_cases heq : first = op
    · subst heq
      obtain ⟨u, hcall, honward, hu⟩ := Grammar.call_literal (g := grammar) hs hrest .parse
      refine ⟨u, ?_, honward, hu⟩
      exact Script.run_call hcall
    · have hne : first.mark ≠ op.mark := by
        intro hmark
        exact heq (Operator.mark_injective hmark)
      have hother : first.symbol.toList.isPrefixOf s.rest = false := by
        rw [hrest, first.symbol_toList, op.symbol_toList]
        simp [List.isPrefixOf, hne]
      obtain ⟨failure, v, hcall, honward, hv⟩ :=
        Grammar.call_literal_refused (g := grammar) hs hother .parse
      have hmem : op ∈ ops := (List.mem_cons.mp hop).resolve_left fun h => heq h.symm
      obtain ⟨u, hrun, honward', hu⟩ :=
        ih (honward.frame.allows hs) hmem (hv.trans hrest)
      exact ⟨u, (Script.run_call hcall).trans hrun, honward.trans honward', hu⟩

theorem operator?_none {height : Nat} (hs : s.Allows room (height + 1)) {ops : List Operator}
    (h : ∀ op ∈ ops, op.symbol.toList.isPrefixOf s.rest = false) :
    ∃ u, (operator? ops).run grammar.kindOf (grammar.run room) s = .finished (.ok none) u ∧
      s.Onward u ∧ u.rest = s.rest := by
  induction ops generalizing s with
  | nil => exact ⟨s, rfl, .refl s, rfl⟩
  | cons first ops ih =>
    obtain ⟨failure, v, hcall, honward, hv⟩ :=
      Grammar.call_literal_refused (g := grammar) hs (h first List.mem_cons_self) .parse
    obtain ⟨u, hrun, honward', hu⟩ := ih (honward.frame.allows hs) fun op hop => by
      rw [hv]
      exact h op (List.mem_cons_of_mem _ hop)
    exact ⟨u, (Script.run_call hcall).trans hrun, honward.trans honward', hu.trans hv⟩

/-- Whichever operator was read stood next. -/
theorem operator?_ended {ops : List Operator} {found : Option Operator} {u : Scanner}
    (hs : s.Fits room)
    (h : (operator? ops).run grammar.kindOf (grammar.run room) s = .finished (.ok found) u) :
    s.Onward u ∧ ((found = none ∧ u.rest = s.rest) ∨
      ∃ op ∈ ops, found = some op ∧ s.rest = op.symbol.toList ++ u.rest) := by
  induction ops generalizing s with
  | nil =>
    cases h
    exact ⟨.refl _, Or.inl ⟨rfl, rfl⟩⟩
  | cons first ops ih =>
    obtain ⟨result, v, hcall, hrun⟩ := Script.call_of_run h
    cases result with
    | ok value =>
      cases hrun
      obtain ⟨honward, -, rest, hrest, hv⟩ := Grammar.literal_of_call (g := grammar) hs hcall
      refine ⟨honward, Or.inr ⟨first, List.mem_cons_self, rfl, ?_⟩⟩
      rw [hrest, hv]
      rfl
    | error failure =>
      obtain ⟨honward, hv⟩ := Grammar.call_failed hs hcall
      obtain ⟨honward', hfound⟩ := ih (honward.frame.fits hs) hrun
      refine ⟨honward.trans honward', ?_⟩
      rw [hv] at hfound
      rcases hfound with hnone | ⟨op, hop, hsome⟩
      · exact Or.inl hnone
      · exact Or.inr ⟨op, List.mem_cons_of_mem _ hop, hsome⟩

end Descent.Calculator
