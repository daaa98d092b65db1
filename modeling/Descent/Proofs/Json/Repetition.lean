import Descent.Proofs.Json.Report

/-!
Keys that come again. A document is rejected for one exactly if it begins with a document that is
not finished, and goes on with a text in quotes that is, decoded, among the decoded keys of the
innermost object. The failure stands where the key begins. What follows the key does not matter,
and neither does what was tried and given up in front of it.
-/
namespace Descent.Json

open Script

/-- Blanks and what is not finished of a document, with the keys that are taken where it stops. -/
def OpenDocument (limit : Nat) (front : List Char) (keys : List String) : Prop :=
  ∃ (before : Blanks) (o : Unfinished), front = before.text ++ o.spelling ∧ keys = o.keys ∧
    o.Distinct ∧ o.need + 1 ≤ limit

theorem parseWithin_tells {input : String} {limits : Limits} {f : Failure}
    (hlimit : limits.maxDepth < unlimited) (heven : 2 ∣ limits.maxDepth)
    (h : grammar.parseWithin (.rule .document) input limits = .error (.failure f)) :
    Tells (OpenDocument limits.maxDepth) (.ofString input limits) f := by
  have hfresh : (Scanner.ofString input limits).Fresh := ⟨input, limits, Or.inl rfl⟩
  have hs := hfresh.ready hlimit
  rcases Grammar.parseWithin_error_cases h with ⟨u, hrun⟩ | ⟨value, u, hrun, rfl⟩
  · rcases parse_error_cases hrun with hcall | ⟨value, v, hcall, hrun⟩
    · have hround : (Scanner.ofString input limits).Aligned 2 0 :=
        (Nat.modEq_zero_iff_dvd.mpr heven).symm
      refine (call_item_tells (fun levels _ => fails_telling levels) hs hround hcall).imp ?_
      rintro front keys ⟨before, o, hfront, hkeys, hdistinct, hdepth⟩
      refine ⟨before, o, hfront, hkeys, hdistinct, ?_⟩
      change 0 + (o.need + 1) ≤ limits.maxDepth at hdepth
      omega
    · have hv := Grammar.call_onward (grammar.calleesOnward _) hs.ample.fits hcall
      obtain ⟨after, w, -, -, hrun⟩ := blanks_of_run (hv.ready hs).ample.fits hrun
      cases hrun
  · -- the value was parsed and what was skipped behind it leaves no failure on record
    obtain ⟨value', v, hcall, hrun⟩ := parse_of_run hrun
    obtain ⟨skipped, w, hskip, hrun⟩ := call_of_run hrun
    cases hrun
    rw [Scanner.lastFailure_of_call_ne hskip (by decide), Scanner.lastFailure_of_call_ok hcall]
    exact .of_reason _ .notConsumed

theorem told_not_repeated {s : Scanner} {f : Failure} (h : f.Told attempts words s)
    (text : String) : f.message ≠ "duplicate key " ++ text := by
  intro hmessage
  have hrepeated : Text.Begins ["duplicate key "] f.message :=
    ⟨_, List.mem_singleton_self _, text, hmessage⟩
  exact h.message_begins.not_apart hrepeated (by decide)

/-- Behind a document that is not finished, a key that is taken is reported, whatever follows. -/
theorem Unfinished.parseText_eq (o : Unfinished) (hdistinct : o.Distinct)
    (hdepth : o.need + 1 ≤ 512) {q : Quoted} (hthere : q.value ∈ o.keys) {before : Blanks}
    {rest : List Char} {input : String}
    (hinput : input.toList = before.text ++ (o.spelling ++ (q.text ++ rest))) :
    parseText input = .error (.fault (.failure
      (repeated (Position.start.advance (before.text ++ o.spelling)) q.value))) := by
  have hvisible : ∃ c ∈ input.toList, Text.isBlank c = false := by
    rw [hinput]
    refine ⟨'"', ?_, Text.isBlank_eq_false (by decide) (by decide)⟩
    simp [Quoted.text]
  obtain ⟨f, hrejected, front, hfront, rfl⟩ := parseText_of_failsWith
    (P := fun f => ∃ front, input.toList = front ++ (q.text ++ rest) ∧
      f = repeated (Position.start.advance front) q.value)
    hvisible fun levels s hs hlevel hlimit hrest hplace => by
      have hfails :=
        o.stops hdistinct hs (by rw [hlevel, hlimit]; omega) (hrest.trans hinput) hthere
      refine hfails.imp fun f hf => ?_
      obtain ⟨front, hfront, hf⟩ := hf
      exact ⟨front, by rw [← hrest, hfront], by rw [hf, hplace]⟩
  rw [hinput, ← List.append_assoc] at hfront
  rw [hrejected, List.append_cancel_right hfront]

/-- A text is rejected for a key that comes again exactly if it begins with a document that is not
finished, in which no key comes twice, and goes on with a key that the innermost object has. The
failure stands at this key and has no cause. -/
theorem repeated_keys_are_reported (input : String) (f : Failure) :
    (parseText input = .error (.fault (.failure f)) ∧
        ∃ text, f.message = "duplicate key " ++ text) ↔
      ∃ (before : Blanks) (o : Unfinished) (q : Quoted) (rest : List Char),
        input.toList = before.text ++ (o.spelling ++ (q.text ++ rest)) ∧ o.Distinct ∧
        o.need + 1 ≤ 512 ∧ q.value ∈ o.keys ∧
        f = ⟨Position.start.advance (before.text ++ o.spelling),
          "duplicate key " ++ Text.quoted q.value, none⟩ := by
  constructor
  · rintro ⟨hrejected, text, hmessage⟩
    rcases parseWithin_tells (by decide) (by decide) (parseText_eq_failure_iff.mp hrejected).2 with
      htold | ⟨front, keys, q, rest, ⟨before, o, rfl, rfl, hdistinct, hdepth⟩, hrest, hthere, hf⟩
    · exact absurd hmessage (told_not_repeated htold text)
    · rw [List.append_assoc] at hrest
      exact ⟨before, o, q, rest, hrest, hdistinct, hdepth, hthere, hf⟩
  · rintro ⟨before, o, q, rest, hinput, hdistinct, hdepth, hthere, rfl⟩
    exact ⟨o.parseText_eq hdistinct hdepth hthere hinput, _, rfl⟩

end Descent.Json
