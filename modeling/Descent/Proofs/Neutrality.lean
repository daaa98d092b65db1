import Descent.Proofs.Calculator.Bounds
import Descent.Proofs.Json.Bounds

/-!
What the bound on nesting can change. It never turns a value into another one: a value stands
under every higher bound. And it matters to deeply nested texts only: without a bound every run
ends, and it ends alike under each bound that a short text cannot meet.
-/
namespace Descent

/-- The bound on nesting changes no value of a parse, and nothing about the texts of `n` bytes if
it admits `enough n` levels. -/
structure Grammar.LimitNeutral (g : Grammar) (c : Callee g.Rule) (enough : Nat → Nat) : Prop where
  mono : ∀ (text : String) (limits : Limits) (limit : Nat) (value : c.Yield g.Yield),
    limits.maxDepth ≤ limit → g.parseWithin c text limits = .ok value →
    g.parseWithin c text (limits.withMaxDepth limit) = .ok value
  /-- With the bound off, a run comes to a value or a failure, in the same way with any room that
  suffices. -/
  ends : ∀ (text : String) (limits : Limits), ∃ result t,
    ∀ room, enough (Text.width text.toList) ≤ room →
      (g.script c).run g.kindOf (g.run room) (.ofString text limits.withoutDepthBound) =
        .finished result t
  answers : ∀ (text : String) (limits : Limits),
    enough (Text.width text.toList) ≤ unlimited →
    ∀ fault, g.parseWithin c text limits.withoutDepthBound = .error fault →
      ∃ f, fault = .failure f
  unbounded : ∀ (text : String) (limits : Limits),
    enough (Text.width text.toList) ≤ limits.maxDepth →
    g.parseWithin c text limits = g.parseWithin c text limits.withoutDepthBound

namespace Grammar

variable {g : Grammar} {need : Callee g.Rule → Nat → Nat} {c : Callee g.Rule}

/-- What came to an end and gives no value is a failure. -/
theorem failure_of_finished {α : Type} {result : Except Failure α} {t : Scanner} {fault : Fault}
    (h : (complete (.finished result t)).toExcept = .error fault) : ∃ f, fault = .failure f := by
  cases result with
  | error f =>
    cases h
    exact ⟨f, rfl⟩
  | ok value =>
    simp only [complete] at h
    split at h
    · cases h
    · cases h
      exact ⟨_, rfl⟩

theorem Within.limitNeutral (hg : g.Within need) (hsteady : g.Steady)
    (hc : (g.script c).Steady) {enough : Nat → Nat}
    (hneed : ∀ n m, n ≤ m → need c n ≤ enough m + 1)
    (hmono : ∀ (text : String) (limits : Limits) (limit : Nat) (value : c.Yield g.Yield),
      limits.maxDepth ≤ limit → g.parseWithin c text limits = .ok value →
      g.parseWithin c text (limits.withMaxDepth limit) = .ok value) :
    g.LimitNeutral c enough := by
  have hlength : ∀ text : String,
      need c text.toList.length ≤ enough (Text.width text.toList) + 1 :=
    fun text => hneed _ _ (Text.length_le_width _)
  have hends : ∀ (text : String) (limits : Limits), ∃ result t,
      ∀ room, enough (Text.width text.toList) ≤ room →
        (g.script c).run g.kindOf (g.run room) (.ofString text limits.withoutDepthBound) =
          .finished result t := by
    intro text limits
    let first := Scanner.ofString text limits.withoutDepthBound
    let room := enough (Text.width text.toList)
    obtain ⟨levels, hlevels, hscript⟩ := hg c text.toList.length
    have hroom : levels ≤ room := by
      have hbound := hlength text
      omega
    have hlasts : (g.script c).run g.kindOf (g.run room) first ≠ .exhausted :=
      hg.run_ne_exhausted (g.script c) (hscript.mono hroom)
    have hkeeps := script_ne_violated (callee_ne_violated hsteady room) (g.script c) hc first
    cases hrun : (g.script c).run g.kindOf (g.run room) first with
    | finished result t =>
      refine ⟨result, t, fun room' hle => ?_⟩
      rw [run_of_more_room hle (g.script c) hlasts, hrun]
    | violated violation t => exact absurd hrun (hkeeps t violation)
    | exhausted => exact absurd hrun hlasts
  refine ⟨hmono, hends, fun text limits henough fault h => ?_, fun text limits henough => ?_⟩
  · obtain ⟨result, t, hrun⟩ := hends text limits
    have hstart : g.start c (.ofString text limits.withoutDepthBound) = .finished result t :=
      hrun unlimited henough
    unfold parseWithin at h
    rw [hstart] at h
    exact failure_of_finished h
  · have hbound := hlength text
    exact hg.parseWithin_eq c text limits (by omega)

end Grammar

/-- The bound changes no value of the calculator and of the data format, and nothing about texts
that cannot nest as deep as it admits: parentheses take four levels, arrays and objects two. -/
theorem limits_are_neutral :
    Calculator.grammar.LimitNeutral (.rule .expr) (fun n => 4 * n + 4) ∧
      Json.grammar.LimitNeutral (.rule .document) (fun n => 2 * n + 3) := by
  constructor
  · refine Calculator.grammar_within.limitNeutral Calculator.grammar_steady ?_ ?_ ?_
    · exact Calculator.grammar_steady _
    · intro n m h
      change 4 * n + 4 + 1 ≤ 4 * m + 4 + 1
      omega
    · intro text limits limit value hle
      exact Calculator.parseWithin_mono hle
  · refine Json.grammar_within.limitNeutral Json.grammar_steady ?_ ?_ ?_
    · exact Json.grammar_steady _
    · intro n m h
      change 2 * n + 4 ≤ 2 * m + 3 + 1
      omega
    · intro text limits limit value hle
      exact Json.parseWithin_mono hle

end Descent
