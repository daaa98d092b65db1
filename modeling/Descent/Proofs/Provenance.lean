import Descent.Proofs.Driving
import Descent.Proofs.Invocation

/-!
Where the causes of failures come from. All invocations share one record of the last failure,
which is put away when a body begins and put back when it ends. Seen from one body, it follows the
calls that the body made itself: `Script.Reaches` lists them on the way to each point of a run,
and `blame` reads the record off that list. It is the failure of the latest parse, if that parse
failed, whatever was peeked at, skipped or logged since, and whatever happened inside of the
calls.
-/
namespace Descent

/-- A call that a body made, and the result it came to. -/
structure Answered {ρ : Type} (Y : ρ → Type) where
  mode : Mode
  callee : Callee ρ
  args : List Argument
  result : Except Failure (callee.Yield Y)

def failureOf {α : Type} : Except Failure α → Option Failure
  | .ok _ => none
  | .error f => some f

/-- The failure of the latest parse among calls, if it failed. The calls stand latest first. -/
def blame {ρ : Type} {Y : ρ → Type} (made : List (Answered Y)) : Option Failure :=
  (made.find? (·.mode = .parse)).bind fun answered => failureOf answered.result

/-- A scanner as a body finds it: at the start of a text, or just entered by an invocation. -/
def Scanner.Begins (s : Scanner) : Prop :=
  s.Fresh ∨ ∃ (caller : Scanner) (args : List Argument), s = caller.entered args

theorem Scanner.Begins.lastFailure {s : Scanner} (h : s.Begins) : s.lastFailure = none := by
  obtain ⟨text, limits, rfl | rfl⟩ | ⟨caller, args, rfl⟩ := h <;> rfl

/-- A parse records how it ended, and the other modes leave the record alone. -/
theorem Scanner.call_lastFailure {α : Type} {mode : Mode} {s t : Scanner} {kind : String}
    {body : Scanner → Outcome α} {args : List Argument} {result : Except Failure α}
    (h : s.call mode kind body args = .finished result t) :
    t.lastFailure = if mode = .parse then failureOf result else s.lastFailure := by
  obtain ⟨u, hinvoke, rfl⟩ := call_cases h
  have hkept : u.lastFailure = s.lastFailure := invoke_lastFailure hinvoke
  cases mode with
  | parse => cases result <;> rfl
  | peek => exact hkept
  | skip => cases result <;> exact hkept

namespace Script

variable {ρ : Type} {Y : ρ → Type} {α : Type} {kind : Callee ρ → String}
  {body : (c : Callee ρ) → Scanner → Outcome (c.Yield Y)} {script rest : Script Y α}
  {s t : Scanner} {made : List (Answered Y)}

/-- The points of a run: the calls made so far, what is still to be done, and the scanner. -/
inductive Reaches (kind : Callee ρ → String)
    (body : (c : Callee ρ) → Scanner → Outcome (c.Yield Y)) (script : Script Y α) (s : Scanner) :
    List (Answered Y) → Script Y α → Scanner → Prop
  | start : Reaches kind body script s [] script s
  | call {made : List (Answered Y)} {mode : Mode} {callee : Callee ρ} {args : List Argument}
      {next : mode.Answer (callee.Yield Y) → Script Y α} {t u : Scanner}
      {result : Except Failure (callee.Yield Y)}
      (h : Reaches kind body script s made (.call mode callee args next) t)
      (hcall : t.call mode (kind callee) (body callee) args = .finished result u) :
      Reaches kind body script s (⟨mode, callee, args, result⟩ :: made)
        (next (mode.answer result)) u
  | ask {made : List (Answered Y)} {query : Query} {next : query.Answer → Script Y α}
      {t : Scanner} (h : Reaches kind body script s made (.ask query next) t) :
      Reaches kind body script s made (next (query.answer t)) t
  | advance {made : List (Answered Y)} {count : Nat} {next : Script Y α} {t u : Scanner}
      (h : Reaches kind body script s made (.advance count next) t)
      (hadvance : t.advance count = .ok u) : Reaches kind body script s made next u
  | note {made : List (Answered Y)} {message : String} {next : Script Y α} {t : Scanner}
      (h : Reaches kind body script s made (.note message next) t) :
      Reaches kind body script s made next (t.note message)
  | noteAttempt {made : List (Answered Y)} {what : String} {next : Script Y α} {t : Scanner}
      (h : Reaches kind body script s made (.noteAttempt what next) t) :
      Reaches kind body script s made next (t.noteAttempt what)
  | takeLog {made : List (Answered Y)} {next : Option String → Script Y α} {t : Scanner}
      (h : Reaches kind body script s made (.takeLog next) t) :
      Reaches kind body script s made (next t.takeLog.1) t.takeLog.2

def ofResult : Except Failure α → Script Y α
  | .ok value => done value
  | .error f => raise f

/-- From each of its points on, a run does what is still to be done. -/
theorem Reaches.run_eq (h : Reaches kind body script s made rest t) :
    script.run kind body s = rest.run kind body t := by
  induction h with
  | start => rfl
  | call h hcall ih => rw [ih, run_call hcall]
  | ask h ih | note h ih | noteAttempt h ih | takeLog h ih => exact ih
  | advance h hadvance ih =>
    rw [ih]
    simp only [run, hadvance]

theorem Reaches.run_end (h : Reaches kind body script s made rest t) {result : Except Failure α}
    {u : Scanner} (hrun : rest.run kind body t = .finished result u) :
    ∃ all, Reaches kind body script s all (ofResult result) u := by
  induction rest generalizing made t with
  | done value =>
    cases hrun
    exact ⟨made, h⟩
  | raise failure =>
    cases hrun
    exact ⟨made, h⟩
  | call mode callee args next ih =>
    obtain ⟨answer, v, hcall, hnext⟩ := call_of_run hrun
    exact ih _ (h.call hcall) hnext
  | ask query next ih => exact ih _ h.ask hrun
  | advance count next ih =>
    simp only [run] at hrun
    split at hrun
    · next v hadvance => exact ih (h.advance hadvance) hrun
    · cases hrun
  | note message next ih => exact ih h.note hrun
  | noteAttempt what next ih => exact ih h.noteAttempt hrun
  | takeLog next ih => exact ih _ h.takeLog hrun

/-- The ends of a run are its last points. -/
theorem run_eq_finished_iff {result : Except Failure α} :
    script.run kind body s = .finished result t ↔
      ∃ made, Reaches kind body script s made (ofResult result) t := by
  constructor
  · exact Reaches.run_end .start
  · rintro ⟨made, h⟩
    rw [h.run_eq]
    cases result <;> rfl

/-- The record follows the calls of the body itself, by induction on the way to the point. -/
theorem Reaches.lastFailure_eq (h : Reaches kind body script s made rest t)
    (hs : s.lastFailure = none) : t.lastFailure = blame made := by
  induction h with
  | start => exact hs
  | @call made mode callee args next t u result h hcall ih =>
    rw [Scanner.call_lastFailure hcall, ih]
    cases mode <;> rfl
  | ask h ih => exact ih
  | advance h hadvance ih =>
    obtain ⟨front, -, -, heq⟩ := (Scanner.advance_eq_ok_iff _ _ _).mp hadvance
    rw [heq]
    exact ih
  | note h ih => exact ih
  | @noteAttempt made what next t h ih =>
    obtain ⟨log, hnote, -⟩ := t.exists_noteAttempt what
    rw [hnote]
    exact ih
  | takeLog h ih => exact ih

end Script

/-- A token that fails has nothing to blame. -/
theorem Token.run_cause {ρ : Type} {Y : ρ → Type} {t : Token} {kind : Callee ρ → String}
    {body : (c : Callee ρ) → Scanner → Outcome (c.Yield Y)} {s u : Scanner} {f : Failure}
    (h : (t.script : Script Y t.Yield).run kind body s = .finished (.error f) u) :
    f.cause = none := by
  rw [run_script] at h
  split at h
  · cases h
    rfl
  · split at h <;> cases h

theorem Scanner.call_cause {α : Type} {mode : Mode} {s t : Scanner} {kind : String}
    {body : Scanner → Outcome α} {args : List Argument} {result : Except Failure α}
    (hrefused : ¬ s.Admits) (h : s.call mode kind body args = .finished result t) :
    ∃ f, result = .error f ∧ f.cause = none := by
  obtain ⟨u, hinvoke, -⟩ := call_cases h
  rcases invoke_cases hinvoke with ⟨-, hresult, -⟩ | ⟨hadmits, -⟩
  · exact ⟨_, hresult, rfl⟩
  · exact absurd hadmits hrefused

/-- The law of causes, for every body of every grammar, invoked or not, at every point of its run:
a failure that is built there is caused by the failure of the latest parse that the body made
itself, and by nothing else. -/
theorem causes_follow_own_parses (g : Grammar) (room : Nat) :
    (∀ {α : Type} (script : Script g.Yield α) (s : Scanner), s.Begins →
      -- each end of the run is one of its points
      (∀ (result : Except Failure α) (t : Scanner),
        script.run g.kindOf (g.run room) s = .finished result t ↔
          ∃ made, script.Reaches g.kindOf (g.run room) s made (.ofResult result) t) ∧
      ∀ (made : List (Answered g.Yield)) (rest : Script g.Yield α) (t : Scanner),
        script.Reaches g.kindOf (g.run room) s made rest t →
        -- failures built from the scanner
        (∀ message, t.failure message = ⟨t.location, message, blame made⟩) ∧
        (∀ location message, t.failureAt location message = ⟨location, message, blame made⟩) ∧
        -- scripts that fail with them
        (∀ {β : Type} (message : String),
          (Script.fail message : Script g.Yield β).run g.kindOf (g.run room) t =
            .finished (.error ⟨t.location, message, blame made⟩) t) ∧
        ∀ {β : Type} (location : Position) (message : String),
          (Script.failAt location message : Script g.Yield β).run g.kindOf (g.run room) t =
            .finished (.error ⟨location, message, blame made⟩) t) ∧
    -- text that is left over at the end of a parse
    (∀ (c : Callee g.Rule) (text : String) (limits : Limits) (value : c.Yield g.Yield)
      (t : Scanner), g.start c (.ofString text limits) = .finished (.ok value) t → t.rest ≠ [] →
      ∃ made, (g.script c).Reaches g.kindOf (g.run (Grammar.levels limits))
          (.ofString text limits) made (.done value) t ∧
        g.parseWithin c text limits =
          .error (.failure ⟨t.location, "expected end of stream", blame made⟩)) ∧
    -- tokens, and invocations that are refused
    (∀ (token : Token) (s t : Scanner) (f : Failure),
      g.run room (.token token) s = .finished (.error f) t → f.cause = none) ∧
    ∀ (s t : Scanner) (mode : Mode) (c : Callee g.Rule) (args : List Argument)
      (result : Except Failure (c.Yield g.Yield)), ¬ s.Admits →
      s.call mode (g.kindOf c) (g.run room c) args = .finished result t →
      ∃ f, result = .error f ∧ f.cause = none := by
  refine ⟨?_, ?_, ?_, ?_⟩
  · intro α script s hs
    refine ⟨fun result t => Script.run_eq_finished_iff, fun made rest t hreach => ?_⟩
    have hrecord : t.lastFailure = blame made := hreach.lastFailure_eq hs.lastFailure
    refine ⟨fun message => ?_, fun location message => ?_, fun message => ?_,
      fun location message => ?_⟩
    all_goals
      rw [← hrecord]
      rfl
  · intro c text limits value t hstart hrest
    obtain ⟨made, hreach⟩ := Script.run_eq_finished_iff.mp hstart
    refine ⟨made, hreach, ?_⟩
    have hcompletes := g.parseWithin_completes c text limits
    rw [hstart] at hcompletes
    rw [← hreach.lastFailure_eq rfl]
    generalize g.parseWithin c text limits = parsed at hcompletes
    cases hcompletes with
    | whole _ _ hwhole => exact absurd hwhole hrest
    | leftOver => rfl
  · intro token s t f h
    cases room with
    | zero => cases h
    | succ levels => exact Token.run_cause h
  · intro s t mode c args result hrefused h
    exact Scanner.call_cause hrefused h

/-- A literal that fails is to blame, although a peek and a skip of another one succeed since. -/
theorem causes_follow_own_parses_over_skip :
    let g := Session.grammar []
    let first := Scanner.ofString "ab" {}
    let x : Callee g.Rule := .token (.literal "x")
    let a : Callee g.Rule := .token (.literal "a")
    let script : Script g.Yield Unit := do
      let _ ← Script.attempt x []
      let _ ← Script.sees a
      Script.skip a
      Script.fail "no"
    let cause := Failure.ofReason .start (.literalMismatch "x")
    let made : List (Answered g.Yield) :=
      [⟨.skip, a, [], .ok "a"⟩, ⟨.peek, a, [], .ok "a"⟩, ⟨.parse, x, [], .error cause⟩]
    first.Begins ∧ ∃ t,
      script.Reaches g.kindOf (g.run 2) first made (Script.fail "no") t ∧
      t.failure "no" = ⟨⟨1, 1, 1⟩, "no", some cause⟩ := by
  intro g first x a script cause made
  let failed : Scanner := { first with lastFailure := some cause }
  let behind : Scanner := { failed with rest := ['b'], location := ⟨1, 1, 1⟩ }
  have hfirst : first.Begins := Or.inl ⟨"ab", {}, Or.inl rfl⟩
  have hparse : first.call .parse (g.kindOf x) (g.run 2 x) [] =
      .finished (.error cause) failed := rfl
  have hpeek : failed.call .peek (g.kindOf a) (g.run 2 a) [] = .finished (.ok "a") failed := rfl
  have hskip : failed.call .skip (g.kindOf a) (g.run 2 a) [] = .finished (.ok "a") behind := rfl
  have hbegin : script.Reaches g.kindOf (g.run 2) first [] script first := .start
  have hpoint : script.Reaches g.kindOf (g.run 2) first made (Script.fail "no") behind :=
    have hparsed := hbegin.call hparse
    have hpeeked := hparsed.call hpeek
    hpeeked.call hskip
  obtain ⟨hbodies, -⟩ := causes_follow_own_parses g 2
  obtain ⟨hfailure, -⟩ := (hbodies script first hfirst).2 made _ behind hpoint
  exact ⟨hfirst, behind, hpoint, hfailure "no"⟩

end Descent
