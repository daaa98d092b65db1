import Descent.Proofs.Calculator.Report
import Descent.Proofs.Json.Encoding
import Descent.Proofs.Json.Repetition
import Descent.Proofs.Neutrality

/-!
The shape of reports. A text is rejected with a failure exactly if it has something to read and
does not belong to the language. It is reported with one failure, or with two at one place: that
of a rule that has tried several alternatives, and that of the last of these, which the text
refuses there. The grammars try and give up much more than this, at every level and at every end
of a loop, and all of it writes to one record; none of it is seen in a report.
-/
namespace Descent

open Grammar

/-- The shape of a failure that a whole text is rejected with. -/
structure Failure.Shaped (attempts : List Attempt) (input : String) (f : Failure) : Prop where
  length_le : f.chain.length ≤ 2
  location_eq : ∀ link ∈ f.chain, link.location = f.location
  isSome_iff : f.cause.isSome = true ↔ f.message ∈ attempts.map Attempt.message
  /-- The text refuses all that was tried where the failure stands, and the cause is how it
  refuses the literal that was tried last. The bound on nesting is never the cause. -/
  last : ∀ cause, f.cause = some cause → ∃ attempt ∈ attempts, f.message = attempt.message ∧
    ∃ front back, input.toList = front ++ back ∧ f.location = Position.start.advance front ∧
      (∀ t ∈ attempt.others, t.Refuses back) ∧
      ∃ reason ∈ [Reason.literalMismatch attempt.last, .unexpectedEnd attempt.last],
        (Token.literal attempt.last).reading back = .error reason ∧
        cause = .ofReason f.location reason
  leftOver : f.message = "expected end of stream" → f.cause = none
  repeated : ∀ text, f.message = "duplicate key " ++ text → f.cause = none
  surrogate : ∀ code, f.message = (Json.Escape.Error.invalidCodepoint code).message →
    f.cause = none

/-- A literal is refused for one of two reasons. -/
theorem Token.reason_of_reading_literal {word : String} {text : List Char} {reason : Reason}
    (h : (literal word).reading text = .error reason) :
    reason ∈ [Reason.literalMismatch word, .unexpectedEnd word] := by
  simp only [reading] at h
  split at h
  · cases h
    simp
  · split at h
    · cases h
      simp
    · cases h

/-- What the messages that have no cause begin with. -/
def aloneWords : List String := "duplicate key " :: Json.words

theorem Failure.Told.shaped {attempts : List Attempt} {input : String} {f : Failure}
    (h : f.Told attempts aloneWords (.ofString input {}))
    (hapart : Text.Apart (attempts.map Attempt.message) aloneWords) :
    f.Shaped attempts input where
  length_le := h.chain_le.1
  location_eq := h.chain_le.2
  isSome_iff := h.cause_isSome_iff hapart
  last := by
    intro cause hcause
    obtain ⟨attempt, hmem, hmessage, front, back, reason, hrest, hlocation, hothers, hread,
      rfl⟩ := h.cause_eq hcause
    exact ⟨attempt, hmem, hmessage, front, back, hrest, hlocation, hothers, reason,
      Token.reason_of_reading_literal hread, hread, rfl⟩
  leftOver hmessage := h.cause_eq_none hapart (.of_mem (by rw [hmessage]; decide))
  repeated text hmessage := h.cause_eq_none hapart ⟨_, List.mem_cons_self, text, hmessage⟩
  surrogate code hmessage :=
    h.cause_eq_none hapart ⟨"invalid unicode character U+", by decide, _, hmessage⟩

/-- Under the bound that is given, a parse of a grammar that moves by its tokens fails unless it
comes to a value. -/
theorem Grammar.parse_fails_iff {g : Grammar} (hg : g.Steady) (r : g.Rule) (text : String) :
    (∃ f, g.parse (.rule r) text = .error (.failure f)) ↔
      ¬ ∃ value, g.parse (.rule r) text = .ok value := by
  constructor
  · rintro ⟨f, hfails⟩ ⟨value, hparse⟩
    rw [hparse] at hfails
    cases hfails
  · intro hnone
    have hfresh : (Scanner.ofString text {}).Fresh := ⟨text, {}, Or.inl rfl⟩
    have hlimit : 512 < unlimited := by decide
    cases hparse : g.parse (.rule r) text with
    | ok value => exact absurd ⟨value, hparse⟩ hnone
    | error fault =>
      unfold parse parseWithin at hparse
      cases hstart : g.start (.rule r) (.ofString text {}) with
      | finished result t =>
        rw [hstart] at hparse
        obtain ⟨f, rfl⟩ := failure_of_finished hparse
        exact ⟨f, rfl⟩
      | violated violation t =>
        exact absurd hstart (script_ne_violated (callee_ne_violated hg _) _ (hg r) _ _ _)
      | exhausted => exact absurd hstart (run_ne_exhausted _ (hfresh.ample hlimit))

theorem Json.rejected_iff (input : String) :
    (∃ f, parseText input = .error (.fault (.failure f))) ↔
      (∃ c ∈ input.toList, Text.isBlank c = false) ∧ ¬ ReadableDocument 512 input.toList := by
  have hreads : (∃ value, grammar.parse (.rule .document) input = .ok value) ↔
      ReadableDocument 512 input.toList := by
    constructor
    · rintro ⟨value, hparse⟩
      obtain ⟨d, hspelling, hdistinct, hdepth, -⟩ := exists_document_of_parseWithin hparse
      exact ⟨d, hspelling, hdistinct, hdepth⟩
    · rintro ⟨d, hspelling, hdistinct, hdepth⟩
      have hbelow : d.root.need 1 < unlimited := Nat.lt_of_le_of_lt hdepth (by decide)
      exact ⟨_, d.parseWithin_eq hdistinct hspelling hdepth hbelow⟩
  simp only [parseText_eq_failure_iff, exists_and_left]
  rw [parse_fails_iff grammar_steady .document, hreads]

/-- The text of a sum that the bound admits. -/
def Calculator.ReadableSum (limit : Nat) (text : List Char) : Prop :=
  ∃ t : Tree .sum, t.text = text ∧ 4 * t.nesting + 4 ≤ limit

theorem Calculator.rejected_iff (input : String) :
    (∃ f, evaluate input = .error (.fault (.failure f))) ↔
      (∃ c ∈ input.toList, Text.isBlank c = false) ∧ ¬ ReadableSum 512 input.toList := by
  have hreads : (∃ value, grammar.parse (.rule .expr) input = .ok value) ↔
      ReadableSum 512 input.toList := by
    constructor
    · rintro ⟨value, hparse⟩
      obtain ⟨t, htext, hdepth, -⟩ := exists_tree_of_parseWithin hparse
      exact ⟨t, htext, hdepth⟩
    · rintro ⟨t, htext, hdepth⟩
      have hbelow : 4 * t.nesting + 4 < unlimited := Nat.lt_of_le_of_lt hdepth (by decide)
      exact ⟨_, t.parseWithin_eq htext hdepth hbelow⟩
  simp only [evaluate_eq_failure_iff, exists_and_left]
  rw [parse_fails_iff grammar_steady .expr, hreads]

theorem Json.rejected_told {input : String} {f : Failure}
    (h : parseText input = .error (.fault (.failure f))) :
    f.Told attempts aloneWords (.ofString input {}) := by
  rcases parseWithin_tells (by decide) (by decide) (parseText_eq_failure_iff.mp h).2 with
    htold | ⟨_, _, q, _, -, -, -, rfl⟩
  · exact htold.mono fun word hword => List.mem_cons_of_mem _ hword
  · exact .alone _ ⟨_, List.mem_cons_self, Text.quoted q.value, rfl⟩

theorem Calculator.rejected_told {input : String} {f : Failure}
    (h : evaluate input = .error (.fault (.failure f))) :
    f.Told attempts aloneWords (.ofString input {}) := by
  have hfresh : (Scanner.ofString input {}).Fresh := ⟨input, {}, Or.inl rfl⟩
  have hlimit : 512 < unlimited := by decide
  have hround : (Scanner.ofString input {}).Aligned 4 Rule.expr.levels := by
    change 4 ≡ 512 [MOD 4]
    decide
  have hwords : ∀ word ∈ Reason.words, word ∈ aloneWords :=
    fun word hword => List.mem_cons_of_mem _ (Json.mem_words_of_reason word hword)
  rcases Grammar.parseWithin_error_cases (evaluate_eq_failure_iff.mp h).2 with
    ⟨u, hrun⟩ | ⟨value, u, hrun, rfl⟩
  · exact (fails_telling _ (r := .expr) (hfresh.ready hlimit) hround hrun).mono hwords
  · -- the sum was parsed, so that no failure is on record behind it
    obtain ⟨result, v, hcall, hrun⟩ := Script.call_of_run (Script.note_of_run hrun)
    cases result with
    | error failure => cases hrun
    | ok sum =>
      cases hrun
      rw [Scanner.lastFailure_of_call_ok hcall]
      exact .of_reason hwords _ .notConsumed

/-- What the two languages are rejected with has the shape of a report, for every text that is
neither blank nor of the language: a cause is there exactly if a value was tried as one thing
after another, or a text in quotes did not end, and it tells how the text refuses the last
attempt. -/
theorem rejections_are_shaped (input : String) :
    ((∀ f, Json.parseText input = .error (.fault (.failure f)) →
        f.Shaped Json.attempts input) ∧
      ((∃ f, Json.parseText input = .error (.fault (.failure f))) ↔
        (∃ c ∈ input.toList, Text.isBlank c = false) ∧
          ¬ Json.ReadableDocument 512 input.toList)) ∧
    ((∀ f, Calculator.evaluate input = .error (.fault (.failure f)) →
        f.Shaped Calculator.attempts input) ∧
      ((∃ f, Calculator.evaluate input = .error (.fault (.failure f))) ↔
        (∃ c ∈ input.toList, Text.isBlank c = false) ∧
          ¬ Calculator.ReadableSum 512 input.toList)) := by
  refine ⟨⟨fun f hrejected => ?_, Json.rejected_iff input⟩, fun f hrejected => ?_,
    Calculator.rejected_iff input⟩
  · exact (Json.rejected_told hrejected).shaped (by decide)
  · exact (Calculator.rejected_told hrejected).shaped (by decide)

/-- A control in a text, where the quote is missed, and a closing bracket too many. -/
theorem rejections_are_shaped_at_control :
    (∃ f, Json.parseText (String.ofList (Json.encoded false ['\x7f'])) =
        .error (.fault (.failure f)) ∧ f.cause.isSome = true ∧
      f.Shaped Json.attempts (String.ofList (Json.encoded false ['\x7f']))) ∧
    ∃ f, Calculator.evaluate "1)" = .error (.fault (.failure f)) ∧
      f.Shaped Calculator.attempts "1)" := by
  constructor
  · have hfront : ∀ d ∈ [], Json.isLateControl d = false :=
      fun d hd => absurd hd List.not_mem_nil
    have hrejected := Json.parseText_encoded_late false hfront
      (show Json.isLateControl '\x7f' = true by decide) []
    exact ⟨_, hrejected, rfl, (rejections_are_shaped _).1.1 _ hrejected⟩
  · obtain ⟨location, hrejected⟩ := Calculator.one_leftOver
    exact ⟨_, hrejected, (rejections_are_shaped _).2.1 _ hrejected⟩

end Descent
