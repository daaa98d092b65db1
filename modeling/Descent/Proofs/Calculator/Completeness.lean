import Descent.Proofs.Calculator.Lexemes

/-!
The calculator reads what derivations spell. A run of a rule on the text of a derivation, in front
of what may follow it, yields the value of the derivation and leaves what follows. The induction
is on the derivation: a chain that is one operand longer is what the rounds of the shorter one
come to when they read one more operator.
-/
namespace Descent.Calculator

open Script
open Text (Avoids)

theorem follows_blanks (after : Blanks) {rest : List Char} (h : Rule.value.Follows rest) :
    Avoids Char.isDigit (after.text ++ rest) ∧ Avoids (· == '.') (after.text ++ rest) ∧
      Avoids (" \t\r\n".toList.contains ·) rest := by
  have hhead :
      ∀ c ∈ (after.text ++ rest).head?, c ∈ [' ', '\t', '\r', '\n'] ++ Rule.value.follow := by
    intro c hc
    cases htext : after.text with
    | nil =>
      rw [htext, List.nil_append] at hc
      exact List.mem_append_right _ (h c hc)
    | cons d ds =>
      rw [htext] at hc
      cases hc
      exact List.mem_append_left _ (after.all c (by rw [htext]; exact List.mem_cons_self))
  have hdigit : ∀ c ∈ [' ', '\t', '\r', '\n'] ++ Rule.value.follow,
      c.isDigit = false ∧ (c == '.') = false := Text.forall_of_all (by decide)
  have hblank : ∀ c ∈ Rule.value.follow, " \t\r\n".toList.contains c = false :=
    Text.forall_of_all (by decide)
  exact ⟨fun c hc => (hdigit c (hhead c hc)).1, fun c hc => (hdigit c (hhead c hc)).2,
    fun c hc => hblank c (h c hc)⟩

theorem Numeral.avoids_blanks (n : Numeral) (rest : List Char) :
    Avoids (" \t\r\n".toList.contains ·) (n.text ++ rest) := by
  have hnot : ∀ d ∈ [' ', '\t', '\r', '\n'], d.isDigit = false :=
    Text.forall_of_all (by decide)
  unfold text
  rw [List.append_assoc]
  exact n.whole.avoids (fun c hc => hnot c ((blank_iff c).mp hc)) _

namespace Tree

/-- The run of the rule reads the text for its value. -/
def Yielded {r : Rule} (t : Tree r) : Prop :=
  ∀ ⦃room : Nat⦄ ⦃s : Scanner⦄ ⦃rest : List Char⦄, s.Allows room (4 * t.nesting + r.levels) →
    s.rest = t.text ++ rest → r.Follows rest →
    ((body r).run grammar.kindOf (grammar.run room) s).Yields t.value rest

/-- The run of the chain comes to the rounds behind the text. -/
def Chained {whole : Rule} (t : Tree whole) : Prop :=
  ∀ ⦃operand : Rule⦄ ⦃ops : List Operator⦄ ⦃room : Nat⦄ ⦃s : Scanner⦄ ⦃rest : List Char⦄,
    Links operand whole ops → s.Allows room (4 * t.nesting + whole.levels) →
    s.rest = t.text ++ rest → operand.Follows rest →
    ∃ rounds u, rest.length < rounds ∧ s.Onward u ∧ u.rest = rest ∧
      (chain operand ops).run grammar.kindOf (grammar.run room) s =
        (chainRest operand ops rounds t.value).run grammar.kindOf (grammar.run room) u

theorem Yielded.call {r : Rule} {t : Tree r} (ht : t.Yielded) {room : Nat} {s : Scanner}
    {rest : List Char} (hs : s.Allows room (4 * t.nesting + r.levels + 1))
    (hrest : s.rest = t.text ++ rest) (hfollows : r.Follows rest) :
    ∃ u, s.call .parse (grammar.kindOf (.rule r)) (grammar.run room (.rule r)) [] =
      .finished (.ok t.value) u ∧ s.Onward u ∧ u.rest = rest :=
  Grammar.call_yields (g := grammar) (c := .rule r) hs []
    (fun _ hallows => ht hallows hrest hfollows) .parse

theorem chainRest_ends {operand whole : Rule} {ops : List Operator} (h : Links operand whole ops)
    {room height rounds : Nat} {s : Scanner} (hs : s.Allows room (height + 1)) (value : Float)
    (hrounds : s.rest.length < rounds) (hfollows : whole.Follows s.rest) :
    ((chainRest operand ops rounds value).run grammar.kindOf (grammar.run room) s).Yields value
      s.rest := by
  obtain ⟨n, rfl⟩ : ∃ n, rounds = n + 1 := ⟨rounds - 1, by omega⟩
  have hnone : ∀ op ∈ ops, op.symbol.toList.isPrefixOf s.rest = false :=
    fun op hop => h.not_operator hfollows hop
  obtain ⟨u, hrun, -, hu⟩ := operator?_none hs hnone
  exact ⟨u, run_bind_of_ok hrun, hu⟩

theorem Chained.yielded {operand whole : Rule} {ops : List Operator} (h : Links operand whole ops)
    {t : Tree whole} (ht : t.Chained) : t.Yielded := by
  intro room s rest hs hrest hfollows
  obtain ⟨message, hbody⟩ : ∃ message, body whole = note message (chain operand ops) := by
    cases h with
    | sum => exact ⟨_, rfl⟩
    | product => exact ⟨_, rfl⟩
  have hnote := s.onward_note message
  obtain ⟨rounds, u, hrounds, honward, rfl, hrun⟩ :=
    ht h (hnote.frame.allows hs) hrest (h.follows hfollows)
  have hu : u.Allows room (4 * t.nesting + whole.levels) :=
    honward.frame.allows (hnote.frame.allows hs)
  rw [h.levels] at hu
  obtain ⟨v, hend, hv⟩ := chainRest_ends h hu t.value hrounds hfollows
  refine ⟨v, ?_, hv⟩
  rw [hbody]
  exact hrun.trans hend

theorem chained_lone {operand whole : Rule} {ops : List Operator} (h : Links operand whole ops)
    {t : Tree operand} (ht : t.Yielded) : (lone h t).Chained := by
  intro operand' ops' room s rest h' hs hrest hfollows
  obtain ⟨rfl, rfl⟩ := h.unique h'
  have hdown : s.Allows room (4 * t.nesting + operand.levels + 1) := by
    rw [h.levels] at hs
    exact hs
  obtain ⟨u, hcall, honward, hu⟩ := ht.call hdown hrest hfollows
  refine ⟨u.rest.length + 1, u, by rw [hu]; exact Nat.lt_succ_self _, honward, hu, ?_⟩
  exact run_call hcall

theorem chained_more {operand whole : Rule} {ops : List Operator} (h : Links operand whole ops)
    {t : Tree whole} {op : Operator} (hop : op ∈ ops) {u : Tree operand} (ht : t.Chained)
    (hu : u.Yielded) : (more h t op hop u).Chained := by
  intro operand' ops' room s rest h' hs hrest hfollows
  obtain ⟨rfl, rfl⟩ := h.unique h'
  rw [text, List.append_assoc, List.append_assoc] at hrest
  have hnesting : t.nesting ≤ max t.nesting u.nesting ∧ u.nesting ≤ max t.nesting u.nesting :=
    ⟨Nat.le_max_left _ _, Nat.le_max_right _ _⟩
  have hlevels := h.levels
  have hsum : (more h t op hop u).nesting = max t.nesting u.nesting := rfl
  -- the shorter chain, up to the operator
  obtain ⟨rounds, v, hrounds, honward, hv, hrun⟩ :=
    ht h (hs.mono (by omega)) hrest (h.follows_operator hop _)
  obtain ⟨n, rfl⟩ : ∃ n, rounds = n + 1 := ⟨rounds - 1, by omega⟩
  have hallows := honward.frame.allows hs
  -- one more round
  obtain ⟨w, hop, honward', hw⟩ :=
    operator?_some (hallows.mono (Nat.succ_le_of_lt (by omega) : 0 + 1 ≤ _)) hop hv
  obtain ⟨x, hcall, honward'', hx⟩ :=
    hu.call ((honward'.frame.allows hallows).mono (by omega)) hw hfollows
  refine ⟨n, x, ?_, (honward.trans honward').trans honward'', hx, ?_⟩
  · rw [op.symbol_toList, List.length_append, List.length_append, List.length_singleton]
      at hrounds
    omega
  · rw [hrun]
    exact (run_bind_of_ok hop).trans (run_call hcall)

theorem yielded_number (before : Blanks) (n : Numeral) (after : Blanks) :
    (number before n after).Yielded := by
  intro room s rest hs hrest hfollows
  obtain ⟨hdigit, hpoint, hblank⟩ := follows_blanks after hfollows
  rw [text, List.append_assoc, List.append_assoc] at hrest
  obtain ⟨u, hskip, honward, hu⟩ := skip_blanks hs before hrest (n.avoids_blanks _)
  have hnote := u.onward_note "parsing value"
  have hsofar := honward.frame.allows hs
  have htakes : (Token.pattern Calculator.number).Takes (u.note "parsing value").rest
      (String.ofList n.text) (after.text ++ rest) := by
    change (Token.pattern Calculator.number).Takes u.rest _ _
    rw [hu]
    exact takes_numeral n hdigit hpoint
  obtain ⟨v, hcall, honward', hv⟩ :=
    Grammar.call_takes (g := grammar) (hnote.frame.allows hsofar) [] htakes .parse
  obtain ⟨w, hskip', -, hw⟩ :=
    skip_blanks (honward'.frame.allows (hnote.frame.allows hsofar)) after hv hblank
  have hread : Decimal.readFloat? (String.ofList n.text).toList = some n.value := by
    rw [String.toList_ofList]
    exact (Option.some_get _).symm
  refine ⟨w, (run_call hskip).trans (run_log.trans ((run_attempt hcall).trans ?_)), hw⟩
  dsimp only
  rw [hread]
  exact run_call hskip'

/-- The rule for whole expressions is the one for sums, one level up. -/
theorem expr_yields {t : Tree .sum} (ht : t.Yielded) {room : Nat} {s : Scanner}
    {rest : List Char} (hs : s.Allows room (4 * t.nesting + Rule.expr.levels))
    (hrest : s.rest = t.text ++ rest) (hfollows : Rule.sum.Follows rest) :
    ((body .expr).run grammar.kindOf (grammar.run room) s).Yields t.value rest := by
  have hnote := s.onward_note "parsing expr"
  obtain ⟨u, hcall, -, hu⟩ := ht.call (hnote.frame.allows hs) hrest hfollows
  exact ⟨u, run_call hcall, hu⟩

/-- Behind its blanks, a value that begins with a parenthesis goes on with an expression. -/
theorem valueBody_opened {room height : Nat} {s : Scanner} (hs : s.Allows room (height + 1))
    (before : Blanks) {rest : List Char} (hrest : s.rest = before.text ++ ("(".toList ++ rest)) :
    ∃ u, s.Onward u ∧ u.rest = rest ∧ valueBody.run grammar.kindOf (grammar.run room) s =
      (parse (.rule .expr) >>= fun inner => parse (.token (.literal ")")) >>= fun _ =>
        skip (.token blanks) >>= fun _ => pure inner : Script Yield Float).run
        grammar.kindOf (grammar.run room) u := by
  obtain ⟨u, hskip, honward, hu⟩ :=
    skip_blanks hs before hrest (Text.avoids_cons (by decide) _)
  have hv := honward.trans (u.onward_note "parsing value")
  have hvRest : (u.note "parsing value").rest = u.rest := rfl
  rw [hu] at hvRest
  have hrefuses : (Token.pattern Calculator.number).Refuses (u.note "parsing value").rest := by
    rw [hvRest]
    exact refuses_numeral (Text.avoids_cons (by decide) _)
  obtain ⟨failure, w, hnumber, hwOnward, hw⟩ :=
    Grammar.call_refused (g := grammar) (hv.frame.allows hs) [] hrefuses .parse
  have hvw := hv.trans hwOnward
  obtain ⟨x, hopened, hxOnward, hx⟩ :=
    Grammar.call_literal (g := grammar) (hvw.frame.allows hs) (hw.trans hvRest) .parse
  exact ⟨x, hvw.trans hxOnward, hx,
    (run_call hskip).trans ((run_call hnumber).trans (run_call hopened))⟩

theorem yielded_group (before : Blanks) {inner : Tree .sum} (hinner : inner.Yielded)
    (after : Blanks) : (group before inner after).Yielded := by
  intro room s rest hs hrest hfollows
  obtain ⟨-, -, hblank⟩ := follows_blanks after hfollows
  have hrest' : s.rest =
      before.text ++ ("(".toList ++ (inner.text ++ (")".toList ++ (after.text ++ rest)))) := by
    rw [hrest, text]
    simp
  have hnested : (group before inner after).nesting = inner.nesting + 1 := rfl
  have hlevels : Rule.value.levels = 1 ∧ Rule.expr.levels = 4 := ⟨rfl, rfl⟩
  obtain ⟨x, hxOnward, hx, hstep⟩ := valueBody_opened hs before hrest'
  have hxAllows := hxOnward.frame.allows hs
  -- the sum, and the parenthesis that closes
  have hfollowsInner : Rule.sum.Follows (")".toList ++ (after.text ++ rest)) := by
    intro c hc
    cases hc
    exact List.mem_cons_self
  have hdown : x.Allows room (4 * inner.nesting + Rule.expr.levels + 1) :=
    hxAllows.mono (by omega)
  obtain ⟨y, hexpr, hyOnward, hy⟩ :=
    Grammar.call_yields (g := grammar) (c := .rule .expr) hdown []
      (fun _ hallows => expr_yields hinner hallows hx hfollowsInner) .parse
  have hyAllows := hyOnward.frame.allows hxAllows
  obtain ⟨z, hclosed, hzOnward, hz⟩ :=
    Grammar.call_literal (g := grammar) hyAllows hy .parse
  obtain ⟨t, hskip', -, ht⟩ := skip_blanks (hzOnward.frame.allows hyAllows) after hz hblank
  refine ⟨t, ?_, ht⟩
  change valueBody.run grammar.kindOf (grammar.run room) s = _
  rw [hstep]
  exact (run_call hexpr).trans ((run_call hclosed).trans (run_call hskip'))

theorem yielded {r : Rule} (t : Tree r) : t.Yielded := by
  have h : t.Yielded ∧ t.Chained := by
    induction t with
    | number before n after =>
      refine ⟨yielded_number before n after, ?_⟩
      intro operand ops room s rest h
      cases h
    | group before inner after ih =>
      refine ⟨yielded_group before ih.1 after, ?_⟩
      intro operand ops room s rest h
      cases h
    | lone h t ih =>
      have hchained := chained_lone h ih.1
      exact ⟨hchained.yielded h, hchained⟩
    | more h t op hop u iht ihu =>
      have hchained := chained_more h hop iht.2 ihu.1
      exact ⟨hchained.yielded h, hchained⟩
  exact h.1

/-- Every chain comes to the rounds behind its text. -/
theorem chained {r : Rule} (t : Tree r) : t.Chained := by
  induction t with
  | number | group =>
    intro operand ops room s rest h
    cases h
  | lone h t => exact chained_lone h t.yielded
  | more h t op hop u iht => exact chained_more h hop iht u.yielded

end Tree

end Descent.Calculator
