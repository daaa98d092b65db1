import Descent.Proofs.Calls
import Descent.Proofs.Logging

/-!
Parses of texts, by the runs they are made of. A log does not steer a run: two scanners at the
start of one text under one bound on nesting are alike, whether or not they log and however much
of the text a log line shows, so that discreet scripts do the same on them. A parse of a whole
text adds one thing to the run of its rule: text that is left over is a failure at the place where
the run stopped, caused by the failure that is on record there.
-/
namespace Descent

variable {α : Type}

theorem Scanner.Fresh.alike {s t : Scanner} (hs : s.Fresh) (ht : t.Fresh)
    (hbuffer : s.buffer = t.buffer) (hdepth : s.limits.maxDepth = t.limits.maxDepth) :
    s.Alike False t := by
  obtain ⟨text, limits, hs⟩ := hs
  obtain ⟨text', limits', ht⟩ := ht
  rcases hs with rfl | rfl <;> rcases ht with rfl | rfl <;>
    · obtain rfl : text = text' := hbuffer
      exact ⟨rfl, rfl, rfl, rfl, hdepth, rfl, rfl, False.elim⟩

theorem Outcome.Alike.toExcept_eq {watched : Prop} {o o' : Outcome α} (h : o.Alike watched o') :
    o.toExcept = o'.toExcept := by
  cases h with
  | finished result => cases result <;> rfl
  | violated => rfl
  | exhausted => rfl

/-- What a parse of a whole text makes of the run of its rule. -/
inductive Outcome.Completes : Outcome α → Except Fault α → Prop
  | failed (f : Failure) (t : Scanner) :
      Completes (.finished (.error f) t) (.error (.failure f))
  | whole (value : α) (t : Scanner) (h : t.rest = []) :
      Completes (.finished (.ok value) t) (.ok value)
  | leftOver (value : α) (t : Scanner) (h : t.rest ≠ []) :
      Completes (.finished (.ok value) t)
        (.error (.failure ⟨t.location, "expected end of stream", t.lastFailure⟩))
  | violated (violation : Violation) (t : Scanner) :
      Completes (.violated violation t) (.error (.violation violation))
  | exhausted : Completes .exhausted (.error .exhausted)

namespace Grammar

variable {g : Grammar}

theorem runScript_alike {watched : Prop} (hg : g.Discreet watched) (script : Script g.Yield α)
    (hscript : script.Discreet watched) {s t : Scanner} (h : s.Alike watched t) :
    (g.runScript script s).Alike watched (g.runScript script t) := by
  have hlevels : levels s.limits = levels t.limits := by
    unfold levels
    rw [h.maxDepth]
  unfold runScript
  rw [hlevels]
  exact run_alike hg _ script hscript h

theorem parseLogged_fst (c : Callee g.Rule) (text : String) (sink : Sink) :
    (g.parseLogged c text sink).1 = (g.start c (Scanner.ofString text {}).withLog).toExcept := by
  unfold parseLogged
  dsimp only
  cases logOf (g.start c (Scanner.ofString text {}).withLog) <;> rfl

theorem parseWithin_completes (g : Grammar) (c : Callee g.Rule) (text : String)
    (limits : Limits) :
    (g.start c (.ofString text limits)).Completes (g.parseWithin c text limits) := by
  have hfresh : (Scanner.ofString text limits).Fresh := ⟨text, limits, Or.inl rfl⟩
  have hplaced : ∀ result t, g.start c (.ofString text limits) = .finished result t →
      t.Placed := by
    intro result t h
    exact (run_onward (g.script c) (Scanner.ofString_fits text limits) h).placed hfresh.placed
  unfold parseWithin
  cases hrun : g.start c (.ofString text limits) with
  | finished result t =>
    cases result with
    | error f => exact .failed f t
    | ok value =>
      have hend := (hplaced _ t hrun).atEnd_iff
      simp only [complete]
      by_cases hatEnd : t.atEnd = true
      · rw [if_pos hatEnd]
        exact .whole value t (hend.mp hatEnd)
      · rw [if_neg hatEnd]
        exact .leftOver value t (mt hend.mpr hatEnd)
  | violated violation t => exact .violated violation t
  | exhausted => exact .exhausted

end Grammar

/-- Logs are transparent, and the ways to parse a text agree: for every grammar and every rule of
it, a parse gives what the run of the rule on a scanner at the start of the text leads to. -/
theorem logging_is_transparent (g : Grammar) :
    -- runs that differ in what they log end alike, with alike scanners
    (g.Discreet False → ∀ {α : Type} (script : Script g.Yield α), script.Discreet False →
      ∀ first second : Scanner, first.Fresh → second.Fresh → first.buffer = second.buffer →
        first.limits.maxDepth = second.limits.maxDepth →
        (g.runScript script first).Alike False (g.runScript script second)) ∧
    -- so that a sink gets a log and changes nothing
    (g.Discreet False → ∀ (c : Callee g.Rule) (text : String) (sink : Sink),
      (g.parseLogged c text sink).1 = g.parseSome c text) ∧
    -- a parse of a part, and a parse of a whole text, by the run of the rule
    (∀ (c : Callee g.Rule) (text : String),
      g.parseSome c text = (g.start c (.ofString text {})).toExcept ∧
      (g.start c (.ofString text {})).Completes (g.parse c text)) ∧
    ∀ (c : Callee g.Rule) (text : String) (limits : Limits),
      (g.start c (.ofString text limits)).Completes (g.parseWithin c text limits) := by
  refine ⟨?_, ?_, ?_, ?_⟩
  · intro hg α script hscript first second hfirst hsecond hbuffer hdepth
    exact Grammar.runScript_alike hg script hscript (hfirst.alike hsecond hbuffer hdepth)
  · intro hg c text sink
    have hlogged : (Scanner.ofString text {}).withLog.Fresh := ⟨text, {}, Or.inr rfl⟩
    have hsilent : (Scanner.ofString text {}).Fresh := ⟨text, {}, Or.inl rfl⟩
    rw [Grammar.parseLogged_fst]
    exact (Grammar.runScript_alike hg (g.script c) (hg.script c)
      (hlogged.alike hsilent rfl rfl)).toExcept_eq
  · exact fun c text => ⟨rfl, g.parseWithin_completes c text {}⟩
  · exact g.parseWithin_completes

theorem Calculator.grammar_discreet : Calculator.grammar.Discreet False :=
  Calculator.body_uses ⟨fun _ _ _ => trivial, trivial, trivial, trivial, trivial⟩

/-- An unfinished sum, without a log and with one of which a sink takes three bytes. -/
theorem logging_is_transparent_to_full_sink :
    let g := Calculator.grammar
    let first := Scanner.ofString "1+(é" {}
    let second := (Scanner.ofString "1+(é" { preview := 0 }).withLog
    g.Discreet False ∧ first.Fresh ∧ second.Fresh ∧ first.buffer = second.buffer ∧
      first.limits.maxDepth = second.limits.maxDepth ∧
      (g.runScript (g.script (.rule .expr)) first).Alike False
        (g.runScript (g.script (.rule .expr)) second) ∧
      (g.parseLogged (.rule .expr) "1+(é" (.empty (some 3))).1 =
        g.parseSome (.rule .expr) "1+(é" := by
  intro g first second
  have hg : g.Discreet False := Calculator.grammar_discreet
  have hfirst : first.Fresh := ⟨"1+(é", {}, Or.inl rfl⟩
  have hsecond : second.Fresh := ⟨"1+(é", { preview := 0 }, Or.inr rfl⟩
  obtain ⟨hruns, hlogged, -⟩ := logging_is_transparent g
  exact ⟨hg, hfirst, hsecond, rfl, rfl,
    hruns hg _ (hg.script (.rule .expr)) first second hfirst hsecond rfl rfl,
    hlogged hg (.rule .expr) "1+(é" (.empty (some 3))⟩

end Descent
