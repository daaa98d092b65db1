import Descent.Proofs.Operations
import Descent.Proofs.Agreement

/-!
Logs do not steer runs. Two scanners are `Alike` if they differ at most in their logs and in how
much of the text a log line shows. A script is `Discreet` if it never takes the log; unless it may
be told whether a log is kept (`watched`), it does not ask for that either. Alike scanners match,
and discreet scripts agree with themselves, where only what is equal counts as the same; so
discreet scripts end alike on alike scanners (`run_alike`), with equal values, equal chains of
failures and equal violations.
-/
namespace Descent

/-- Scanners that differ in what they log alone. If `watched`, both keep a log or none does. -/
structure Scanner.Alike (watched : Prop) (s t : Scanner) : Prop where
  buffer : s.buffer = t.buffer
  rest : s.rest = t.rest
  location : s.location = t.location
  guard : s.guard = t.guard
  maxDepth : s.limits.maxDepth = t.limits.maxDepth
  arguments : s.arguments = t.arguments
  lastFailure : s.lastFailure = t.lastFailure
  logging : watched → s.isLogging = t.isLogging

inductive Outcome.Alike (watched : Prop) {α : Type} : Outcome α → Outcome α → Prop
  | finished (result : Except Failure α) {s t : Scanner} (h : s.Alike watched t) :
      Alike watched (.finished result s) (.finished result t)
  | violated (violation : Violation) {s t : Scanner} (h : s.Alike watched t) :
      Alike watched (.violated violation s) (.violated violation t)
  | exhausted : Alike watched .exhausted .exhausted

/-- An operation that does not take the log, and asks whether there is one only if `watched`. -/
def Operation.Discreet (watched : Prop) {ρ : Type} : Operation ρ → Prop
  | ask .logging => watched
  | takeLog => False
  | _ => True

/-- A script of such operations. -/
abbrev Script.Discreet (watched : Prop) {ρ : Type} {Y : ρ → Type} {α : Type}
    (script : Script Y α) : Prop :=
  script.Uses (Operation.Discreet watched)

def Grammar.Discreet (watched : Prop) (g : Grammar) : Prop :=
  ∀ r, (g.body r).Discreet watched

variable {watched : Prop}

/-- Only what is equal counts as the same. -/
abbrev Correspondence.equality (watched : Prop) : Correspondence :=
  .diagonal (fun _ => True) watched

namespace Scanner

variable {s t : Scanner}

theorem Alike.matches (h : s.Alike watched t) : s.Matches (.equality watched) t := by
  refine ⟨h.buffer, h.rest, fun front _ _ => ?_, h.guard, h.maxDepth, h.arguments, ?_, h.logging⟩
  · exact ⟨congrArg (Position.advance · front) h.location, trivial⟩
  · rw [← h.lastFailure]
    exact Failure.Within.record_matches fun _ _ _ _ => trivial

theorem Matches.alike (h : s.Matches (.equality watched) t) : s.Alike watched t :=
  ⟨h.buffer, h.rest, h.places_match.1, h.guard, h.maxDepth, h.arguments,
    Failure.Matches.record_eq h.lastFailure, h.logging⟩

end Scanner

theorem Violation.Matches.eq {violation violation' : Violation}
    (h : violation.Matches (.equality watched) violation') : violation = violation' := by
  cases h with
  | @pastEnd p q text text' count h hbuffer =>
    obtain rfl : text = text' := hbuffer
    rw [h.1]
  | insideCharacter count h => rw [h.1]

theorem Outcome.Matches.alike {α : Type} {o o' : Outcome α}
    (h : o.Matches (.equality watched) o') : o.Alike watched o' := by
  cases h with
  | finished hresult h =>
    rw [hresult.eq]
    exact .finished _ h.alike
  | violated hviolation h =>
    rw [hviolation.eq]
    exact .violated _ h.alike
  | exhausted => exact .exhausted

namespace Script

variable {ρ : Type} {Y : ρ → Type} {α : Type}

/-- A discreet script does the same on the same answers, whatever is logged. -/
theorem Discreet.agrees {script : Script Y α} (h : script.Discreet watched) :
    script.Agrees (.equality watched) script := by
  induction script with
  | done value => exact .done value
  | raise failure => exact .raise (Failure.Within.matches failure fun _ _ => trivial)
  | call mode callee args next ih =>
    refine .call fun a b hab => ?_
    obtain rfl : a = b := by
      cases mode with
      | parse => exact ResultsMatch.eq hab
      | peek | skip => exact hab
    exact ih a (h.2 a)
  | ask query next ih =>
    refine .ask fun a b hab => ?_
    obtain rfl : a = b := by
      cases query with
      | location => exact And.left hab
      | lastFailure => exact Failure.Matches.record_eq hab
      | logging => exact hab h.1
      | remaining | buffer | depth | arguments => exact hab
    exact ih a (h.2 a)
  | advance count next ih => exact .advance (ih h.2)
  | note message next ih => exact .note message message (ih h.2)
  | noteAttempt what next ih => exact .noteAttempt what what (ih h.2)
  | takeLog => exact h.1.elim

end Script

namespace Grammar

variable {g : Grammar}

theorem Discreet.script (hg : g.Discreet watched) (c : Callee g.Rule) :
    (g.script c).Discreet watched := by
  cases c with
  | token t => exact t.uses_script trivial trivial trivial fun _ => trivial
  | rule r => exact hg r

theorem run_alike (hg : g.Discreet watched) (room : Nat) {α : Type} (script : Script g.Yield α)
    (hscript : script.Discreet watched) {s t : Scanner} (h : s.Alike watched t) :
    (script.run g.kindOf (g.run room) s).Alike watched (script.run g.kindOf (g.run room) t) :=
  have hagrees : g.Agrees (.equality watched) := fun r => Script.Discreet.agrees (hg r)
  (run_matches hagrees room (Script.Discreet.agrees hscript) h.matches).alike

end Grammar

end Descent
