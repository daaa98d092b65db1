import Descent.Proofs.Nesting
import Descent.Proofs.Calculator.Terse
import Descent.Proofs.Json.Terse

/-!
What a log tells of the calls. Every invocation with a tidy run is recorded: its body's lines
stand deeper, then one line says how it ended, and text and place in it are those of the body,
whatever becomes of them behind it. In a tidy run that holds of every invocation that is made, and
the whole log is nested. The runs of the calculator and of the data format are all tidy, since
they are terse.
-/
namespace Descent

open Text (OneLine)

namespace Grammar

open Scanner

variable {g : Grammar} {room : Nat} {first s t : Scanner} {α : Type} {heard : List String}

theorem call_recorded (hkinds : ∀ r, OneLine (g.kind r)) (hfresh : first.Fresh)
    (hs : g.Reachable first room s) {mode : Mode} {c : Callee g.Rule} {args : List Argument}
    {result : Except Failure (c.Yield g.Yield)}
    (htidy : s.Admits → g.Tidy room c (s.entered args))
    (h : s.call mode (g.kindOf c) (g.run room c) args = .finished result t) :
    ∃ block outcome, g.Recorded room c args s result t block outcome := by
  have hfits := hs.fits hfresh
  obtain ⟨block, outcome, hcloses⟩ := call_closes (calleesNest hkinds room) hkinds hfits htidy h
  exact ⟨block, outcome, hcloses.recorded hfits (hs.placed hfresh)⟩

/-- The script is tidy if it is run from here as the body of an invocation that is not nested. -/
def TidyRun (g : Grammar) (script : Script g.Yield α) (s : Scanner) : Prop :=
  script.Tidy g.kindOf (g.run (levels s.limits)) (g.Tidy (levels s.limits)) [] s

/-- The invocation is made on a scanner that runs come by, and its body is tidy there. -/
def TidyFrom (g : Grammar) (first : Scanner) (i : Invocation g.Rule) : Prop :=
  ∃ room, g.Reachable first room i.caller ∧ (i.caller.Admits → g.Tidy room i.callee i.inner)

theorem tidy_token (g : Grammar) (room : Nat) (t : Token) (s : Scanner) :
    g.Tidy room (.token t) s := by
  cases room with
  | zero | succ => trivial

theorem script_invocations_tidy
    (hcallees : ∀ c s levels, room = levels + 1 → g.Reachable first levels s → g.Tidy room c s →
      ∀ i ∈ g.invocations room c s, g.TidyFrom first i)
    (script : Script g.Yield α) (hs : g.Reachable first room s)
    (htidy : script.Tidy g.kindOf (g.run room) (g.Tidy room) heard s) :
    ∀ i ∈ script.invocations g.kindOf (g.run room) (g.invocations room) s,
      g.TidyFrom first i := by
  induction script generalizing heard s with
  | done | raise => simp [Script.invocations]
  | call mode c args next ih =>
    simp only [Script.invocations, List.forall_mem_cons, List.forall_mem_append]
    refine ⟨⟨room, hs, htidy.1⟩, ?_, ?_⟩
    · by_cases hadmits : s.Admits
      · rw [if_pos hadmits]
        cases room with
        | zero => simp [invocations]
        | succ levels => exact hcallees c _ levels rfl (hs.enter hadmits args) (htidy.1 hadmits)
      · simp [hadmits]
    · cases hrun : s.call mode (g.kindOf c) (g.run room c) args with
      | finished result t =>
        exact ih _ (hs.run (.call mode c args .done) (Script.run_call hrun))
          (htidy.2 result t hrun)
      | violated => simp
      | exhausted => simp
  | ask query next ih => exact ih _ hs htidy
  | advance count next ih =>
    simp only [Script.invocations]
    cases hadvance : s.advance count with
    | ok t =>
      refine ih (hs.run_unit (Script.move count) ?_) (htidy t hadvance)
      simp only [Script.move, Script.run, hadvance]
    | error => simp
  | note message next ih => exact ih (hs.run_unit (Script.log message) rfl) htidy.2
  | noteAttempt what next ih => exact ih (hs.run_unit (Script.logAttempt what) rfl) htidy.2
  | takeLog next ih => exact htidy.elim

theorem invocations_tidy {levels : Nat} (hroom : room = levels + 1) (c : Callee g.Rule)
    (hs : g.Reachable first levels s) (htidy : g.Tidy room c s) :
    ∀ i ∈ g.invocations room c s, g.TidyFrom first i := by
  induction room generalizing levels c s with
  | zero => exact absurd hroom (by omega)
  | succ room ih =>
    obtain rfl : levels = room := by omega
    cases c with
    | token t => simp [invocations_token]
    | rule r =>
      exact script_invocations_tidy (fun c s levels' h hs htidy => ih h c hs htidy) (g.body r) hs
        htidy

theorem TidyRun.invocations {script : Script g.Yield α} (h : g.TidyRun script first) :
    ∀ i ∈ g.invocationsOf script first, g.TidyFrom first i :=
  script_invocations_tidy (fun c _ _ hroom hs htidy => invocations_tidy hroom c hs htidy) script
    .start h

/-- All that runs of the grammar log is a record of their calls. -/
structure RecordsCalls (g : Grammar) : Prop where
  calls : ∀ {first s : Scanner} {room : Nat}, first.Fresh → g.Reachable first room s →
    ∀ (mode : Mode) (c : Callee g.Rule) (args : List Argument)
      (result : Except Failure (c.Yield g.Yield)) (t : Scanner),
      s.call mode (g.kindOf c) (g.run room c) args = .finished result t →
      ∃ block outcome, g.Recorded room c args s result t block outcome
  starts : ∀ {first : Scanner}, first.Fresh →
    ∀ (c : Callee g.Rule) (result : Except Failure (c.Yield g.Yield)) (t : Scanner),
      g.start c first = .finished result t → first.Nests t

theorem Terse.recordsCalls (hg : g.Terse) (hkinds : ∀ r, OneLine (g.kind r)) :
    g.RecordsCalls := by
  constructor
  · intro first s room hfresh hs mode c args result t hcall
    exact call_recorded hkinds hfresh hs (fun _ => hg.tidy room c _ rfl) hcall
  · intro first hfresh c result t hstart
    have hfits : first.Fits (levels first.limits) := Reachable.fits (.start (g := g)) hfresh
    have hrecord : first.lastFailure = none := Begins.lastFailure (Or.inl hfresh)
    obtain ⟨added, hlog, hnested, -⟩ :=
      calleesNest hkinds (levels first.limits + 1) c first t _ result rfl hfits
        (hg.tidy _ c first hrecord) hstart
    exact ⟨added, hlog, hnested⟩

end Grammar

theorem Calculator.grammar_recordsCalls : Calculator.grammar.RecordsCalls :=
  Calculator.grammar_terse.recordsCalls fun _ => (by decide : OneLine "f64")

theorem Json.grammar_recordsCalls : Json.grammar.RecordsCalls :=
  Json.grammar_terse.recordsCalls Json.oneLine_kind

/-- The law of logs, for every grammar whose kinds of value have names of one line. -/
theorem log_records_calls (g : Grammar) (hkinds : ∀ r, OneLine (g.kind r)) :
    -- invocations with a tidy run, wherever they are made and in whatever mode
    (∀ {first s : Scanner} {room : Nat}, first.Fresh → g.Reachable first room s →
      ∀ (mode : Mode) (c : Callee g.Rule) (args : List Argument)
        (result : Except Failure (c.Yield g.Yield)) (t : Scanner),
        (s.Admits → g.Tidy room c (s.entered args)) →
        s.call mode (g.kindOf c) (g.run room c) args = .finished result t →
        ∃ block outcome, g.Recorded room c args s result t block outcome) ∧
    -- tidy runs from the start of a text, with all the invocations that they make
    (∀ {first : Scanner} {α : Type} (script : Script g.Yield α), first.Fresh →
      g.TidyRun script first →
      (∀ result t, g.runScript script first = .finished result t → first.Nests t) ∧
      ∀ i ∈ g.invocationsOf script first, ∃ room, g.Reachable first room i.caller ∧
        ∀ (mode : Mode) (result : Except Failure (i.callee.Yield g.Yield)) (t : Scanner),
          i.caller.call mode (g.kindOf i.callee) (g.run room i.callee) i.args =
            .finished result t →
          ∃ block outcome, g.Recorded room i.callee i.args i.caller result t block outcome) ∧
    -- tokens, whatever they look for and wherever they stand
    (∀ (t : Token) (s : Scanner) (room : Nat),
      OneLine (s.attempt t.what) ∧ g.Tidy room (.token t) s) ∧
    -- the calculator and the data format
    Calculator.grammar.RecordsCalls ∧ Json.grammar.RecordsCalls := by
  refine ⟨?_, ?_, ?_, Calculator.grammar_recordsCalls, Json.grammar_recordsCalls⟩
  · intro first s room hfresh hs mode c args result t htidy hcall
    exact Grammar.call_recorded hkinds hfresh hs htidy hcall
  · intro first α script hfresh htidy
    constructor
    · intro result t hrun
      have hfits := Grammar.Reachable.fits (.start (g := g)) hfresh
      exact Grammar.script_nests (Grammar.calleesNest hkinds _) hkinds script hfits htidy hrun
    · intro i hi
      obtain ⟨room, hreach, hinner⟩ := htidy.invocations i hi
      refine ⟨room, hreach, fun mode result t hcall => ?_⟩
      exact Grammar.call_recorded hkinds hfresh hreach hinner hcall
  · intro t s room
    exact ⟨s.oneLine_attempt t.oneLine_what, g.tidy_token room t s⟩

/-- A rule that reads a line and then looks for a mark that is not there: it fails on the second
line of the text, and the log quotes the line break that was read. -/
theorem log_records_calls_of_missing_mark :
    let body : Script (fun _ : Unit => Unit) Unit := do
      Script.log "reading a line"
      let _ ← Script.parse (.token (.literal "a\n"))
      if ← Script.sees (.token (.literal "b")) then return () else Script.fail "no mark"
    let g : Grammar := ⟨Unit, fun _ => Unit, fun _ => "()", fun _ => body⟩
    let first := (Scanner.ofString "a\nc" {}).withLog
    let c : Callee g.Rule := .rule ()
    let f : Failure := ⟨⟨2, 2, 0⟩, "no mark", none⟩
    (∀ r, OneLine (g.kind r)) ∧ first.Fresh ∧ g.Reachable first 513 first ∧
      (first.Admits → g.Tidy 513 c (first.entered [])) ∧
      (∃ t, first.call .parse (g.kindOf c) (g.run 513 c) [] = .finished (.error f) t ∧
        ∃ block outcome, g.Recorded 513 c [] first (.error f) t block outcome) ∧
      g.TidyRun body first ∧
      ∀ result t, g.runScript body first = .finished result t → first.Nests t := by
  intro body g first c f
  have hkinds : ∀ r, OneLine (g.kind r) := fun _ => (by decide : OneLine "()")
  have hg : g.Terse := by
    intro r
    refine ⟨by decide, (Script.terse_parse _).bind fun _ _ => ?_⟩
    refine (Script.terse_sees _).bind fun found _ => ?_
    cases found with
    | true => trivial
    | false => exact Script.terse_fail (by decide)
  have hfresh : first.Fresh := ⟨"a\nc", {}, Or.inr rfl⟩
  have hs : g.Reachable first 513 first := .start
  have htidy : first.Admits → g.Tidy 513 c (first.entered []) := fun _ => hg.tidy 513 c _ rfl
  have hrun : g.TidyRun body first := hg.tidy (Grammar.levels first.limits + 1) c first rfl
  obtain ⟨t, hcall⟩ :
      ∃ t, first.call .parse (g.kindOf c) (g.run 513 c) [] = .finished (.error f) t := ⟨_, rfl⟩
  obtain ⟨hcalls, hruns, -⟩ := log_records_calls g hkinds
  exact ⟨hkinds, hfresh, hs, htidy,
    ⟨t, hcall, hcalls hfresh hs .parse c [] _ t htidy hcall⟩, hrun, (hruns body hfresh hrun).1⟩

end Descent
