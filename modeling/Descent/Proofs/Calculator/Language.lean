import Descent.Proofs.Calculator.Completeness
import Descent.Proofs.Calculator.Soundness

/-!
The language of the calculator. A text evaluates to a number exactly if it is the text of a sum
whose parentheses fit under the bound on nesting, and the number is what the sum denotes.
-/
namespace Descent.Calculator

namespace Tree

theorem exists_visible {r : Rule} (t : Tree r) : ∃ c ∈ t.text, Text.isBlank c = false := by
  induction t with
  | number before n after =>
    obtain ⟨c, cs, hwhole⟩ := List.exists_cons_of_ne_nil n.whole.nonempty
    have hdigit := n.whole.all c (by rw [hwhole]; exact List.mem_cons_self)
    obtain ⟨hlow, hhigh⟩ := Char.isDigit_iff_toNat.mp hdigit
    refine ⟨c, ?_, Text.isBlank_eq_false ?_ ?_⟩
    · simp [text, Numeral.text, hwhole]
    · exact Nat.le_trans (by decide) hlow
    · exact Nat.lt_of_le_of_lt hhigh (by decide)
  | group before inner after =>
    exact ⟨'(', by simp [text], Text.isBlank_eq_false (by decide) (by decide)⟩
  | lone h t ih => exact ih
  | more h t op hop u iht ihu =>
    obtain ⟨c, hc, hblank⟩ := iht
    exact ⟨c, List.mem_append_left _ hc, hblank⟩

end Tree

theorem exists_tree_of_parseWithin {input : String} {limits : Limits} {value : Float}
    (h : grammar.parseWithin (.rule .expr) input limits = .ok value) :
    ∃ t : Tree .sum, t.text = input.toList ∧ 4 * t.nesting + 4 ≤ limits.maxDepth ∧
      t.value = value := by
  obtain ⟨u, hrun, hu⟩ :=
    (Grammar.parseWithin_eq_ok_iff grammar (.rule .expr) input limits value).mp h
  obtain ⟨t, htext, hvalue, hdepth⟩ :
      ∃ t : Tree .sum, t.Spells (.ofString input limits) u Rule.expr.levels value :=
    sound _ .expr _ u value (Scanner.ofString_fits input limits) hrun
  rw [hu, List.append_nil] at htext
  refine ⟨t, htext.symm, ?_, hvalue⟩
  change 0 + (4 * t.nesting + 4) ≤ limits.maxDepth at hdepth
  omega

/-- A sum that nests no deeper than the bound is evaluated, whatever the bound is. -/
theorem Tree.parseWithin_eq (t : Tree .sum) {input : String} (htext : t.text = input.toList)
    {limits : Limits} (hdepth : 4 * t.nesting + 4 ≤ limits.maxDepth)
    (hbelow : 4 * t.nesting + 4 < unlimited) :
    grammar.parseWithin (.rule .expr) input limits = .ok t.value := by
  refine (Grammar.parseWithin_eq_ok_iff grammar (.rule .expr) input limits t.value).mpr ?_
  have hallows := Scanner.ofString_allows input hdepth hbelow
  refine Tree.expr_yields t.yielded hallows ?_ (Rule.follows_nil _)
  rw [htext, List.append_nil]
  rfl

/-- Within any limits, the rule for expressions reads exactly the texts of sums that do not nest
too deeply. -/
theorem parseWithin_eq_ok_iff (input : String) {limits : Limits}
    (hlimit : limits.maxDepth < unlimited) (value : Float) :
    grammar.parseWithin (.rule .expr) input limits = .ok value ↔
      ∃ t : Tree .sum, t.text = input.toList ∧ 4 * t.nesting + 4 ≤ limits.maxDepth ∧
        t.value = value := by
  constructor
  · exact exists_tree_of_parseWithin
  · intro h
    obtain ⟨t, htext, hdepth, rfl⟩ := h
    exact t.parseWithin_eq htext hdepth (Nat.lt_of_le_of_lt hdepth hlimit)

/-- The calculator evaluates exactly the texts of sums that do not nest too deeply, each to what
it denotes. -/
theorem evaluate_eq_ok_iff (input : String) (value : Float) :
    evaluate input = .ok value ↔
      ∃ t : Tree .sum, t.text = input.toList ∧ 4 * t.nesting + 4 ≤ 512 ∧ t.value = value := by
  have hparse : grammar.parse (.rule .expr) input = .ok value ↔ _ :=
    parseWithin_eq_ok_iff input (by decide) value
  unfold evaluate
  split
  · next hblank =>
    constructor
    · intro h
      cases h
    · intro h
      obtain ⟨t, htext, -, -⟩ := h
      obtain ⟨c, hc, hvisible⟩ := t.exists_visible
      rw [htext] at hc
      rw [List.all_eq_true.mp hblank c hc] at hvisible
      cases hvisible
  · exact (mapError_eq_ok_iff _ _ _).trans hparse

theorem evaluate_of_visible {text : String} (h : ∃ c ∈ text.toList, Text.isBlank c = false) :
    evaluate text = (grammar.parse (.rule .expr) text).mapError .fault := by
  obtain ⟨c, hc, hvisible⟩ := h
  have hnot : ¬ text.toList.all Text.isBlank = true := by
    intro hblank
    rw [List.all_eq_true.mp hblank c hc] at hvisible
    cases hvisible
  exact if_neg hnot

/-- A text is rejected with a failure if it has something to read and its parse fails so. -/
theorem evaluate_eq_failure_iff {text : String} {f : Failure} :
    evaluate text = .error (.fault (.failure f)) ↔
      (∃ c ∈ text.toList, Text.isBlank c = false) ∧
        grammar.parse (.rule .expr) text = .error (.failure f) := by
  constructor
  · intro h
    unfold evaluate at h
    split at h
    · cases h
    · next hblank =>
      obtain ⟨e, hparse, hfault⟩ := mapError_eq_error h
      cases hfault
      exact ⟨by simpa using hblank, hparse⟩
  · rintro ⟨hvisible, hparse⟩
    rw [evaluate_of_visible hvisible, hparse]
    rfl

end Descent.Calculator
