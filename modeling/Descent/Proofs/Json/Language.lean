import Descent.Proofs.Json.Completeness
import Descent.Proofs.Json.Soundness

/-!
The language of the data format. A text is parsed to a value exactly if it spells a document with
that value, in which no object has a key twice and whose levels fit under the bound on nesting.
-/
namespace Descent.Json

open Script

variable {room : Nat} {s u : Scanner}

theorem documentBody_yields (d : Document) (hdistinct : d.root.Distinct)
    (hs : s.Allows room (d.root.need 0 + 1)) (hrest : s.rest = d.spelling) :
    (documentBody.run grammar.kindOf (grammar.run room) s).Yields d.root.value [] := by
  have hspelling : s.rest = d.before.text ++ (d.root.spelling ++ (d.after.text ++ [])) := by
    rw [hrest, List.append_nil]
    rfl
  have hfollows : Follows (d.after.text ++ []) := Follows.nil.blanks d.after
  obtain ⟨u, hcall, honward, hu⟩ :=
    Grammar.call_yields (g := grammar) (c := .rule .value) hs []
      (fun _ hallows => d.root.yielded hdistinct hallows hspelling hfollows) .parse
  obtain ⟨_, v, hskip, -, hv⟩ :=
    skip_blanks (honward.frame.allows hs) d.after hu (Text.avoids_nil _)
  exact ⟨v, (run_call hcall).trans (run_call hskip), hv⟩

theorem documentBody_sound {value : Value} (hs : s.Fits room)
    (h : documentBody.run grammar.kindOf (grammar.run room) s = .finished (.ok value) u)
    (hend : u.rest = []) :
    ∃ d : Document, d.spelling = s.rest ∧ d.root.Distinct ∧
      s.depth + (d.root.need 0 + 1) ≤ s.limits.maxDepth ∧ d.root.value = value := by
  have hbelow : ∀ levels, levels < room → Sound levels := fun levels _ => sound levels
  obtain ⟨root, v, hcall, hrun⟩ := parse_of_run h
  obtain ⟨honward, before, t, ht, hdepth⟩ := call_item_sound hbelow hs hcall
  obtain ⟨after, w, hafter, -, hrun⟩ := blanks_of_run (honward.frame.fits hs) hrun
  cases hrun
  refine ⟨⟨before, t, after⟩, ?_, ht.distinct, hdepth, ht.value⟩
  rw [ht.text, hafter, hend, List.append_nil]
  rfl

theorem Document.exists_visible (d : Document) : ∃ c ∈ d.spelling, Text.isBlank c = false := by
  obtain ⟨c, cs, hspelling, hopening⟩ := d.root.exists_cons
  obtain ⟨hlow, hhigh, -⟩ := isOpening_visible hopening
  refine ⟨c, ?_, Text.isBlank_eq_false hlow hhigh⟩
  unfold spelling
  rw [hspelling]
  simp

theorem exists_document_of_parseWithin {input : String} {limits : Limits} {value : Value}
    (h : grammar.parseWithin (.rule .document) input limits = .ok value) :
    ∃ d : Document, d.spelling = input.toList ∧ d.root.Distinct ∧
      d.root.need 1 ≤ limits.maxDepth ∧ d.root.value = value := by
  obtain ⟨u, hrun, hu⟩ :=
    (Grammar.parseWithin_eq_ok_iff grammar (.rule .document) input limits value).mp h
  obtain ⟨d, hspelling, hdistinct, hdepth, hvalue⟩ :=
    documentBody_sound (Scanner.ofString_fits input limits) hrun hu
  refine ⟨d, hspelling, hdistinct, ?_, hvalue⟩
  have hadd : d.root.need 1 = 1 + d.root.need 0 := d.root.need_add 1 0
  change 0 + (d.root.need 0 + 1) ≤ limits.maxDepth at hdepth
  omega

/-- A document that nests no deeper than the bound is parsed, whatever the bound is. -/
theorem Document.parseWithin_eq (d : Document) (hdistinct : d.root.Distinct) {input : String}
    (hspelling : d.spelling = input.toList) {limits : Limits}
    (hdepth : d.root.need 1 ≤ limits.maxDepth) (hbelow : d.root.need 1 < unlimited) :
    grammar.parseWithin (.rule .document) input limits = .ok d.root.value := by
  refine (Grammar.parseWithin_eq_ok_iff grammar (.rule .document) input limits _).mpr ?_
  have hadd : d.root.need 1 = 1 + d.root.need 0 := d.root.need_add 1 0
  have hallows : (Scanner.ofString input limits).Allows (Grammar.levels limits)
      (d.root.need 0 + 1) := Scanner.ofString_allows input (by omega) (by omega)
  exact documentBody_yields d hdistinct hallows hspelling.symm

/-- Within any limits, the rule for documents reads exactly the documents that do not nest too
deeply. -/
theorem parseWithin_eq_ok_iff (input : String) {limits : Limits}
    (hlimit : limits.maxDepth < unlimited) (value : Value) :
    grammar.parseWithin (.rule .document) input limits = .ok value ↔
      ∃ d : Document, d.spelling = input.toList ∧ d.root.Distinct ∧
        d.root.need 1 ≤ limits.maxDepth ∧ d.root.value = value := by
  constructor
  · exact exists_document_of_parseWithin
  · intro h
    obtain ⟨d, hspelling, hdistinct, hdepth, rfl⟩ := h
    exact d.parseWithin_eq hdistinct hspelling hdepth (Nat.lt_of_le_of_lt hdepth hlimit)

/-- Exactly the documents are parsed in which no object has a key twice and which do not nest too
deeply, each to the value of its root. -/
theorem parseText_eq_ok_iff (input : String) (value : Value) :
    parseText input = .ok value ↔
      ∃ d : Document, d.spelling = input.toList ∧ d.root.Distinct ∧ d.root.need 1 ≤ 512 ∧
        d.root.value = value := by
  have hparse : grammar.parse (.rule .document) input = .ok value ↔ _ :=
    parseWithin_eq_ok_iff input (by decide) value
  unfold parseText
  split
  · next hblank =>
    constructor
    · intro h
      cases h
    · intro h
      obtain ⟨d, hspelling, -, -, -⟩ := h
      obtain ⟨c, hc, hvisible⟩ := d.exists_visible
      rw [hspelling] at hc
      rw [List.all_eq_true.mp hblank c hc] at hvisible
      cases hvisible
  · exact (mapError_eq_ok_iff _ _ _).trans hparse

theorem parseText_of_visible {text : String} (h : ∃ c ∈ text.toList, Text.isBlank c = false) :
    parseText text = (grammar.parse (.rule .document) text).mapError .fault := by
  obtain ⟨c, hc, hvisible⟩ := h
  have hnot : ¬ text.toList.all Text.isBlank = true := by
    intro hblank
    rw [List.all_eq_true.mp hblank c hc] at hvisible
    cases hvisible
  exact if_neg hnot

/-- A text is rejected with a failure if it has something to read and its parse fails so. -/
theorem parseText_eq_failure_iff {text : String} {f : Failure} :
    parseText text = .error (.fault (.failure f)) ↔
      (∃ c ∈ text.toList, Text.isBlank c = false) ∧
        grammar.parse (.rule .document) text = .error (.failure f) := by
  constructor
  · intro h
    unfold parseText at h
    split at h
    · cases h
    · next hblank =>
      obtain ⟨e, hparse, hfault⟩ := mapError_eq_error h
      cases hfault
      exact ⟨by simpa using hblank, hparse⟩
  · rintro ⟨hvisible, hparse⟩
    rw [parseText_of_visible hvisible, hparse]
    rfl

end Descent.Json
