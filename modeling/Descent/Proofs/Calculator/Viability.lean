import Descent.Proofs.Calculator.Language
import Descent.Proofs.Viability

/-!
The calculator fails no later than it must. If a run of a rule fails, and not because of the
bound, then the text up to the place of the failure is the beginning of a text that the rule
reads: a number is put where a value is missing, and a parenthesis where one is open. The
induction is on the room for callees; the rounds of a chain carry the derivation of what was read
so far.
-/
namespace Descent.Calculator

open Script

/-- The text is that of a derivation, and the bound admits it with so many levels. -/
def Readable (r : Rule) (levels : Nat) (s : Scanner) (text : List Char) : Prop :=
  ∃ t : Tree r, text = t.text ∧ s.depth + (4 * t.nesting + levels) ≤ s.limits.maxDepth

/-- The failure is due to the bound, or viable for texts of a rule. -/
def Accounted (r : Rule) (levels : Nat) (s : Scanner) (f : Failure) : Prop :=
  f.NamesBound s.limits.maxDepth ∨ f.Viable (Readable r levels s) s

/-- With this much room for callees, the failures of all rules are accounted for. -/
def FailsViably (room : Nat) : Prop :=
  ∀ ⦃r : Rule⦄ ⦃s u : Scanner⦄ ⦃f : Failure⦄, s.Ready room →
    (body r).run grammar.kindOf (grammar.run room) s = .finished (.error f) u →
    Accounted r.base r.levels s f

def Blanks.none : Blanks := ⟨[], fun _ hc => absurd hc List.not_mem_nil⟩

def Numeral.one : Numeral where
  whole := ⟨"1".toList, by decide, Text.forall_of_all rfl⟩
  fraction := none

theorem Accounted.behind {r r' : Rule} {levels levels' : Nat} {s t : Scanner} {f : Failure}
    {front : List Char} (h : Accounted r levels t f) (honward : s.Onward t)
    (hrest : s.rest = front ++ t.rest)
    (htexts : ∀ text, Readable r levels s text →
      ∃ more, Readable r' levels' s (front ++ (text ++ more))) : Accounted r' levels' s f := by
  rcases h with hbound | hviable
  · left
    rwa [← honward.frame.limits]
  · refine Or.inr (hviable.behind honward hrest fun text htext => htexts text ?_)
    obtain ⟨x, hx, hdepth⟩ := htext
    exact ⟨x, hx, honward.frame.within hdepth⟩

/-- Looking for an operator never fails. -/
theorem operator?_not_error {room : Nat} {ops : List Operator} {s u : Scanner} {f : Failure} :
    (operator? ops).run grammar.kindOf (grammar.run room) s ≠ .finished (.error f) u := by
  intro h
  induction ops generalizing s with
  | nil => cases h
  | cons op ops ih =>
    obtain ⟨result, v, -, hrun⟩ := call_of_run h
    cases result with
    | ok => cases hrun
    | error => exact ih hrun

theorem number_not_error {room : Nat} {s v u : Scanner} {f : Failure} {digits : String}
    (hs : s.Fits room)
    (hnumber : s.call .parse (grammar.kindOf (.token (.pattern number)))
      (grammar.run room (.token (.pattern number))) [] = .finished (.ok digits) v) :
    (match Decimal.readFloat? digits.toList with
      | none => fail "invalid float literal"
      | some x => skip (.token blanks) >>= fun _ => pure x : Script Yield Float).run
        grammar.kindOf (grammar.run room) v ≠ .finished (.error f) u := by
  intro h
  obtain ⟨honward, -, rest, htakes, -⟩ := Grammar.call_token_ok (g := grammar) hs hnumber
  obtain ⟨n, -, hdigits⟩ := numeral_of_takes htakes
  have hread : Decimal.readFloat? digits.toList = some n.value := by
    rw [hdigits]
    exact (Option.some_get _).symm
  rw [hread] at h
  obtain ⟨after, x, -, -, hrun⟩ := blanks_of_run (honward.frame.fits hs) h
  cases hrun

/-- How a value fails: in the sum that a parenthesis opens, behind it, or where neither a number
nor a parenthesis stands. -/
inductive ValueFails (room : Nat) (s : Scanner) (f : Failure) : Prop
  | inside (before : Blanks) (t u : Scanner) (honward : s.Onward t)
      (hrest : s.rest = (before.text ++ ['(']) ++ t.rest)
      (hcall : t.call .parse (grammar.kindOf (.rule .expr)) (grammar.run room (.rule .expr)) [] =
        .finished (.error f) u)
  | unclosed (before : Blanks) (sum : Tree .sum) (t : Scanner) (reason : Reason)
      (honward : s.Onward t) (hrest : s.rest = (before.text ++ ['('] ++ sum.text) ++ t.rest)
      (hdepth : s.depth + (4 * sum.nesting + 5) ≤ s.limits.maxDepth)
      (hmissed : (Token.literal ")").Missed t reason) (hf : f = .ofReason t.location reason)
  | unknown (before : Blanks) (t : Scanner) (reason : Reason) (honward : s.Onward t)
      (hrest : s.rest = before.text ++ t.rest)
      (hnumber : ∃ reason', (Token.pattern number).Missed t reason')
      (hmissed : (Token.literal "(").Missed t reason)
      (hf : f = ⟨t.location, "invalid value", some (.ofReason t.location reason)⟩)

theorem valueBody_error_cases {room : Nat} {s u : Scanner} {f : Failure} (hs : s.Ready room)
    (h : valueBody.run grammar.kindOf (grammar.run room) s = .finished (.error f) u) :
    ValueFails room s f := by
  obtain ⟨before, v, hbefore, honward, hrun⟩ := blanks_of_run hs.ample.fits h
  have hnoted := honward.trans (v.onward_note "parsing value")
  have hv := hnoted.ready hs
  obtain ⟨result, w, hnumber, hrun⟩ := call_of_run (note_of_run hrun)
  cases result with
  | ok digits =>
    exact absurd hrun (number_not_error (s := v.note "parsing value") hv.ample.fits hnumber)
  | error failure =>
    obtain ⟨hw, hwRest⟩ := Grammar.call_failed (g := grammar) hv.ample.fits hnumber
    have hsw := hnoted.trans hw
    have hplace : s.rest = before.text ++ w.rest := by
      rw [hwRest]
      exact hbefore
    obtain ⟨result, x, hopen, hrun⟩ := call_of_run hrun
    cases result with
    | error failure' =>
      obtain ⟨reason, hmissed, rfl⟩ :=
        Grammar.call_token_missed (g := grammar) (hsw.ready hs) hopen
      obtain ⟨hx, hxRest⟩ := Grammar.call_failed (g := grammar) (hsw.ready hs).ample.fits hopen
      have hf : f = ⟨x.location, "invalid value", x.lastFailure⟩ := by
        cases hrun
        rfl
      obtain ⟨reason', hnumber', -⟩ := Grammar.call_token_missed (g := grammar) hv hnumber
      refine .unknown before (v.note "parsing value") reason hnoted hbefore ⟨reason', hnumber'⟩
        (hmissed.back hw hwRest) ?_
      rw [hf, Scanner.lastFailure_of_call hopen, hx.location_eq hxRest, hw.location_eq hwRest]
    | ok word =>
      obtain ⟨hx, -, rest, hopened, hxRest⟩ :=
        Grammar.literal_of_call (g := grammar) (hsw.ready hs).ample.fits hopen
      have hxRest : x.rest = rest := hxRest
      have hsx := hsw.trans hx
      have hpassed : s.rest = (before.text ++ ['(']) ++ x.rest := by
        rw [hplace, hopened, hxRest, List.append_assoc]
        rfl
      rcases parse_error_cases hrun with ⟨y, hcall⟩ | ⟨inner, y, hcall, hrun⟩
      · exact .inside before x y hsx hpassed hcall
      · obtain ⟨hy, hsum⟩ :=
          call_sound (fun levels _ => sound levels) (r := .expr) (hsx.ready hs).ample.fits hcall
        obtain ⟨sum, hsum⟩ : ∃ t : Tree .sum, t.Spells x y (Rule.expr.levels + 1) inner := hsum
        have hsy := hsx.trans hy
        rcases Grammar.literal_error_exact (g := grammar) (hsy.ready hs) hrun with
          ⟨reason, hmissed, hf⟩ | ⟨-, _, z, hz, -, hrun⟩
        · refine .unclosed before sum y reason hsy ?_ (hsx.frame.within hsum.depth) hmissed hf
          rw [hpassed, hsum.text, ← List.append_assoc]
        · obtain ⟨after, z', -, -, hrun⟩ :=
            blanks_of_run ((hsy.trans hz).ready hs).ample.fits hrun
          cases hrun

section Steps

variable {room : Nat} (ih : ∀ levels, room = levels + 1 → FailsViably levels) {s u : Scanner}
  {f : Failure}

include ih

theorem call_accounted {r : Rule} (hs : s.Ready room)
    (h : s.call .parse (grammar.kindOf (.rule r)) (grammar.run room (.rule r)) [] =
      .finished (.error f) u) : Accounted r.base (r.levels + 1) s f := by
  rcases Grammar.call_error_cases (g := grammar) (c := .rule r) hs h with
    hbound | ⟨-, levels, v, hroom, hentered, hdown, hrun⟩
  · exact Or.inl hbound
  · rcases ih levels hroom hentered hrun with
      hbound | ⟨front, back, more, hrest, hlocation, t, htext, hdepth⟩
    · exact Or.inl hbound
    · refine Or.inr ⟨front, back, more, hrest, hlocation, t, htext, ?_⟩
      rw [hdown] at hdepth
      change s.depth + 1 + (4 * t.nesting + r.levels) ≤ s.limits.maxDepth at hdepth
      omega

section Chains

variable {operand whole : Rule} {ops : List Operator} (hlinks : Links operand whole ops)

include hlinks

theorem operand_accounted (hs : s.Ready room)
    (h : s.call .parse (grammar.kindOf (.rule operand)) (grammar.run room (.rule operand)) [] =
      .finished (.error f) u) : Accounted operand whole.levels s f := by
  cases hlinks with
  | sum => exact call_accounted ih hs h
  | product => exact call_accounted ih hs h

theorem chainRest_accounted {start : Scanner} (rounds : Nat) (hstart : start.Ready room)
    (honward : start.Onward s) (t : Tree whole) (ht : t.Spells start s whole.levels t.value)
    (h : (chainRest operand ops rounds t.value).run grammar.kindOf (grammar.run room) s =
      .finished (.error f) u) : Accounted whole whole.levels start f := by
  induction rounds generalizing s t with
  | zero => cases h
  | succ rounds ihRounds =>
    have hs := honward.ready hstart
    rcases bind_error_cases h with hread | ⟨found, v, hread, hrun⟩
    · exact absurd hread operator?_not_error
    · obtain ⟨honward', ⟨rfl, -⟩ | ⟨op, hop, rfl, htext⟩⟩ := operator?_ended hs.ample.fits hread
      · cases hrun
      · have hv := honward'.ready hs
        have hpassed : start.rest = (t.text ++ op.symbol.toList) ++ v.rest := by
          rw [ht.text, htext, List.append_assoc]
        rcases parse_error_cases hrun with ⟨w, hcall⟩ | ⟨next, w, hcall, hrun⟩
        · refine (operand_accounted ih hlinks hv hcall).behind (honward.trans honward') hpassed ?_
          rintro text ⟨x, rfl, hdepth⟩
          refine ⟨[], .more hlinks t op hop x, by simp [Tree.text], ?_⟩
          have hleft := ht.depth
          change start.depth + (4 * max t.nesting x.nesting + whole.levels) ≤ _
          omega
        · obtain ⟨honward'', x, hx⟩ :=
            operand_sound (fun levels _ => sound levels) hlinks hv.ample.fits hcall
          obtain rfl := hx.value
          refine ihRounds ((honward.trans honward').trans honward'') (.more hlinks t op hop x)
            ⟨?_, rfl, ?_⟩ hrun
          · rw [hpassed, hx.text, Tree.text]
            simp
          · have hleft := ht.depth
            have hright := (honward.trans honward').frame.within hx.depth
            change start.depth + (4 * max t.nesting x.nesting + whole.levels) ≤ _
            omega

theorem chain_accounted (hs : s.Ready room)
    (h : (chain operand ops).run grammar.kindOf (grammar.run room) s = .finished (.error f) u) :
    Accounted whole whole.levels s f := by
  rcases parse_error_cases h with ⟨v, hcall⟩ | ⟨first, v, hcall, hrun⟩
  · refine (operand_accounted ih hlinks hs hcall).behind (.refl s) (List.nil_append _).symm ?_
    rintro text ⟨t, rfl, hdepth⟩
    exact ⟨[], .lone hlinks t, by simp [Tree.text], hdepth⟩
  · obtain ⟨honward, t, ht⟩ :=
      operand_sound (fun levels _ => sound levels) hlinks hs.ample.fits hcall
    obtain rfl := ht.value
    exact chainRest_accounted ih hlinks _ hs honward (.lone hlinks t) ⟨ht.text, rfl, ht.depth⟩
      (get_of_run hrun)

end Chains

theorem valueBody_accounted (hs : s.Ready room)
    (h : valueBody.run grammar.kindOf (grammar.run room) s = .finished (.error f) u) :
    Accounted .value 1 s f := by
  have hclosed : ∀ (before : Blanks) (sum : Tree .sum),
      s.depth + (4 * sum.nesting + 5) ≤ s.limits.maxDepth →
      Readable .value 1 s ((before.text ++ ['(']) ++ (sum.text ++ [')'])) := by
    intro before sum hdepth
    refine ⟨.group before sum .none, by simp [Tree.text, Blanks.none], ?_⟩
    change s.depth + (4 * (sum.nesting + 1) + 1) ≤ s.limits.maxDepth
    omega
  cases valueBody_error_cases hs h with
  | inside before t v honward hrest hcall =>
    refine (call_accounted ih (r := .expr) (honward.ready hs) hcall).behind honward hrest ?_
    rintro text ⟨sum, rfl, hdepth⟩
    exact ⟨[')'], hclosed before sum hdepth⟩
  | unclosed before sum t reason honward hrest hdepth hmissed hf =>
    rw [hf]
    rcases hmissed with ⟨-, rfl⟩ | ⟨-, -⟩
    · left
      rw [← honward.frame.limits]
      exact Failure.namesBound_tooDeep _ _
    · refine Or.inr (.of_location honward hrest rfl [')'] ?_)
      rw [List.append_assoc]
      exact hclosed before sum hdepth
  | unknown before t reason honward hrest _ hmissed hf =>
    rw [hf]
    rcases hmissed with ⟨-, rfl⟩ | ⟨hadmits, -⟩
    · left
      rw [← honward.frame.limits]
      exact (Failure.namesBound_tooDeep _ _).caused _ _
    · exact Or.inr (.of_location honward hrest rfl ['1']
        ⟨.number before .one .none, rfl, honward.frame.within hadmits⟩)

end Steps

theorem viability_step {room : Nat} (ih : ∀ levels, room = levels + 1 → FailsViably levels) :
    FailsViably room := by
  intro r s u f hs h
  have hnoted : ∀ message, (s.note message).Ready room :=
    fun message => (s.onward_note message).ready hs
  cases r with
  | expr =>
    obtain ⟨result, v, hcall, hrun⟩ := call_of_run (note_of_run h)
    cases result with
    | ok => cases hrun
    | error failure =>
      cases hrun
      have hsum := call_accounted ih (r := .sum) (hnoted "parsing expr") hcall
      exact hsum
  | sum =>
    have hchain := chain_accounted ih .sum (hnoted "parsing sum") (note_of_run h)
    exact hchain
  | product =>
    have hchain := chain_accounted ih .product (hnoted "parsing product") (note_of_run h)
    exact hchain
  | value => exact valueBody_accounted ih hs h

theorem fails_viably (room : Nat) : FailsViably room := by
  induction room with
  | zero => exact viability_step fun levels hlevels => absurd hlevels (by omega)
  | succ room ih =>
    refine viability_step fun levels hlevels => ?_
    obtain rfl : levels = room := by omega
    exact ih

end Descent.Calculator
