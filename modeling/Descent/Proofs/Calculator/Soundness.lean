import Descent.Proofs.Calculator.Lexemes

/-!
Whatever the calculator reads has a derivation. If a run of a rule comes to a value, then the text
that it read is the text of a derivation with this value, whose nesting fits under the bound. The
induction is on the room for callees; in the rounds of a chain, what was read so far is a
derivation, which every round makes longer.
-/
namespace Descent.Calculator

open Script

/-- The rule whose derivations a rule reads. -/
def Rule.base : Rule → Rule
  | expr => sum
  | r => r

/-- The tree spells what a run read from one scanner to another, for its value, and so many levels
are within the bound there. -/
structure Tree.Spells {r : Rule} (t : Tree r) (s u : Scanner) (levels : Nat) (value : Float) :
    Prop where
  text : s.rest = t.text ++ u.rest
  value : t.value = value
  depth : s.depth + (4 * t.nesting + levels) ≤ s.limits.maxDepth

/-- With this much room for callees, the runs of all rules read texts of derivations. -/
def Sound (room : Nat) : Prop :=
  ∀ (r : Rule) (s u : Scanner) (value : Float), s.Fits room →
    (body r).run grammar.kindOf (grammar.run room) s = .finished (.ok value) u →
    ∃ t : Tree r.base, t.Spells s u r.levels value

theorem number_sound {room : Nat} {start s v u : Scanner} {value : Float} {digits : String}
    {before : Blanks} (hbefore : start.rest = before.text ++ s.rest) (honward : start.Onward s)
    (hs : start.Fits room)
    (hnumber : s.call .parse (grammar.kindOf (.token (.pattern number)))
      (grammar.run room (.token (.pattern number))) [] = .finished (.ok digits) v)
    (h : (match Decimal.readFloat? digits.toList with
      | none => fail "invalid float literal"
      | some x => skip (.token blanks) >>= fun _ => pure x : Script Yield Float).run
        grammar.kindOf (grammar.run room) v = .finished (.ok value) u) :
    ∃ t : Tree .value, t.Spells start u Rule.value.levels value := by
  have hsFits := honward.frame.fits hs
  obtain ⟨hvOnward, hdepth, rest, htakes, hv⟩ :=
    Grammar.call_token_ok (g := grammar) hsFits hnumber
  obtain ⟨n, htext, hdigits⟩ := numeral_of_takes htakes
  have hread : Decimal.readFloat? digits.toList = some n.value := by
    rw [hdigits]
    exact (Option.some_get _).symm
  rw [hread] at h
  obtain ⟨after, u', hafter, -, hrun⟩ := blanks_of_run (hvOnward.frame.fits hsFits) h
  cases hrun
  refine ⟨.number before n after, ?_, rfl, honward.frame.within hdepth⟩
  have hvRest : v.rest = rest := hv
  rw [hbefore, htext, ← hvRest, hafter, Tree.text]
  simp

section Steps

variable {room : Nat} (ih : ∀ levels, room = levels + 1 → Sound levels) {s u : Scanner}
  {value : Float}

include ih

theorem call_sound {r : Rule} (hs : s.Fits room)
    (h : s.call .parse (grammar.kindOf (.rule r)) (grammar.run room (.rule r)) [] =
      .finished (.ok value) u) :
    s.Onward u ∧ ∃ t : Tree r.base, t.Spells s u (r.levels + 1) value := by
  obtain ⟨honward, -, levels, v, hroom, hfits, hdown, hrun, hrest⟩ :=
    Grammar.call_ok (g := grammar) (c := .rule r) hs h
  obtain ⟨t, ht⟩ := ih levels hroom r _ _ _ hfits hrun
  refine ⟨honward, t, ?_, ht.value, ?_⟩
  · rw [hrest]
    exact ht.text
  · have hdepth := ht.depth
    rw [hdown] at hdepth
    change s.depth + 1 + (4 * t.nesting + r.levels) ≤ s.limits.maxDepth at hdepth
    omega

section Chains

variable {operand whole : Rule} {ops : List Operator} (hlinks : Links operand whole ops)

include hlinks

theorem operand_sound (hs : s.Fits room)
    (h : s.call .parse (grammar.kindOf (.rule operand)) (grammar.run room (.rule operand)) [] =
      .finished (.ok value) u) :
    s.Onward u ∧ ∃ t : Tree operand, t.Spells s u whole.levels value := by
  cases hlinks with
  | sum => exact call_sound ih hs h
  | product => exact call_sound ih hs h

/-- The rounds of a chain, behind what was read since `start`. -/
theorem chainRest_sound {start : Scanner} (rounds : Nat) (hstart : start.Fits room)
    (honward : start.Onward s) (t : Tree whole) (ht : t.Spells start s whole.levels t.value)
    (h : (chainRest operand ops rounds t.value).run grammar.kindOf (grammar.run room) s =
      .finished (.ok value) u) :
    ∃ t' : Tree whole, t'.Spells start u whole.levels value := by
  induction rounds generalizing s t with
  | zero =>
    cases h
    exact ⟨t, ht⟩
  | succ rounds ihRounds =>
    have hs := honward.frame.fits hstart
    obtain ⟨found, v, hread, hrun⟩ := bind_of_run h
    obtain ⟨honward', ⟨rfl, hv⟩ | ⟨op, hop, rfl, htext⟩⟩ := operator?_ended hs hread
    · cases hrun
      refine ⟨t, ?_, rfl, ht.depth⟩
      rw [hv]
      exact ht.text
    · have hvFits := honward'.frame.fits hs
      obtain ⟨next, w, hcall, hrun⟩ := parse_of_run hrun
      obtain ⟨honward'', x, hx⟩ := operand_sound ih hlinks hvFits hcall
      obtain rfl := hx.value
      refine ihRounds ((honward.trans honward').trans honward'') (.more hlinks t op hop x)
        ⟨?_, rfl, ?_⟩ hrun
      · rw [ht.text, htext, hx.text, Tree.text]
        simp
      · have hleft := ht.depth
        have hright := (honward.trans honward').frame.within hx.depth
        change start.depth + (4 * max t.nesting x.nesting + whole.levels) ≤ _
        omega

theorem chain_sound (hs : s.Fits room)
    (h : (chain operand ops).run grammar.kindOf (grammar.run room) s = .finished (.ok value) u) :
    ∃ t : Tree whole, t.Spells s u whole.levels value := by
  obtain ⟨first, v, hcall, hrun⟩ := parse_of_run h
  obtain ⟨honward, t, ht⟩ := operand_sound ih hlinks hs hcall
  obtain rfl := ht.value
  exact chainRest_sound ih hlinks _ hs honward (.lone hlinks t) ⟨ht.text, rfl, ht.depth⟩
    (get_of_run hrun)

end Chains

theorem valueBody_sound (hs : s.Fits room)
    (h : valueBody.run grammar.kindOf (grammar.run room) s = .finished (.ok value) u) :
    ∃ t : Tree .value, t.Spells s u Rule.value.levels value := by
  obtain ⟨before, v, hbefore, honward, hrun⟩ := blanks_of_run hs h
  have hnoted := honward.trans (v.onward_note "parsing value")
  have hvFits := hnoted.frame.fits hs
  obtain ⟨result, w, hnumber, hrun⟩ := call_of_run (note_of_run hrun)
  cases result with
  | ok digits => exact number_sound (s := v.note "parsing value") hbefore hnoted hs hnumber hrun
  | error failure =>
    obtain ⟨hwOnward, hw⟩ := Grammar.call_failed (g := grammar) hvFits hnumber
    have hwFits := hwOnward.frame.fits hvFits
    obtain ⟨x, hxOnward, ⟨-, hopened, hrun⟩ | ⟨-, hrun⟩⟩ :=
      Grammar.succeeds_of_run (g := grammar) hwFits hrun
    · have hxFits := hxOnward.frame.fits hwFits
      obtain ⟨inner, y, hexpr, hrun⟩ := parse_of_run hrun
      obtain ⟨hyOnward, hsum⟩ := call_sound ih (r := .expr) hxFits hexpr
      obtain ⟨t, ht⟩ : ∃ t : Tree .sum, t.Spells x y (Rule.expr.levels + 1) inner := hsum
      have hyFits := hyOnward.frame.fits hxFits
      obtain ⟨_, z, hzOnward, -, hclosed, hrun⟩ :=
        Grammar.literal_of_run (g := grammar) hyFits hrun
      obtain ⟨after, v', hafter, -, hrun⟩ := blanks_of_run (hzOnward.frame.fits hyFits) hrun
      cases hrun
      have hwRest : w.rest = v.rest := hw
      refine ⟨.group before t after, ?_, ht.value, ?_⟩
      · change s.rest = before.text ++ ('(' :: (t.text ++ (')' :: after.text))) ++ u.rest
        rw [hbefore, ← hwRest, hopened, ht.text, hclosed, hafter]
        simp
      · have hinner := ((hnoted.trans hwOnward).trans hxOnward).frame.within ht.depth
        change s.depth + (4 * (t.nesting + 1) + 1) ≤ s.limits.maxDepth
        change s.depth + (4 * t.nesting + (4 + 1)) ≤ s.limits.maxDepth at hinner
        omega
    · cases hrun

end Steps

theorem sound_step {room : Nat} (ih : ∀ levels, room = levels + 1 → Sound levels) :
    Sound room := by
  intro r s u value hs h
  cases r with
  | expr =>
    have hnote := s.onward_note "parsing expr"
    obtain ⟨result, v, hcall, hrun⟩ := call_of_run (note_of_run h)
    cases result with
    | error failure => cases hrun
    | ok value' =>
      cases hrun
      obtain ⟨-, t, ht⟩ := call_sound ih (r := .sum) (hnote.frame.fits hs) hcall
      exact ⟨t, ht.text, ht.value, ht.depth⟩
  | sum =>
    have hnote := s.onward_note "parsing sum"
    obtain ⟨t, ht⟩ := chain_sound ih .sum (hnote.frame.fits hs) (note_of_run h)
    exact ⟨t, ht.text, ht.value, ht.depth⟩
  | product =>
    have hnote := s.onward_note "parsing product"
    obtain ⟨t, ht⟩ := chain_sound ih .product (hnote.frame.fits hs) (note_of_run h)
    exact ⟨t, ht.text, ht.value, ht.depth⟩
  | value => exact valueBody_sound ih hs h

theorem sound (room : Nat) : Sound room := by
  induction room with
  | zero => exact sound_step fun levels hlevels => absurd hlevels (by omega)
  | succ room ih =>
    refine sound_step fun levels hlevels => ?_
    obtain rfl : levels = room := by omega
    exact ih

end Descent.Calculator
