import Descent.Proofs.Provenance
import Descent.Proofs.Record

/-!
Terse scripts. A script is `Terse` if it leaves the log where it is, and words all that it logs
and fails with in one line, as long as its callees do so and its tokens yield what they can read.
This is a property of the tree alone, which passes through `bind`, and it makes every run tidy
(`Terse.tidy`).
-/
namespace Descent

open Text (OneLine)

/-- What calls come to, if the callee says what it says in one line. -/
def Callee.Answers {ρ : Type} {Y : ρ → Type} : (c : Callee ρ) → Except Failure (c.Yield Y) → Prop
  | .token t, .ok value => ∃ text rest, t.Takes text value rest
  | .rule _, .ok _ => True
  | _, .error f => OneLine f.message

def Scanner.TerseRecord (s : Scanner) : Prop := ∀ f ∈ s.lastFailure, OneLine f.message

namespace Script

variable {ρ : Type} {Y : ρ → Type} {α β : Type} {keeps : α → Prop}

/-- As long as its callees are terse, the script takes no log, and all that it logs and fails with
is one line; and `keeps` holds of its value. -/
def Terse (keeps : α → Prop) : Script Y α → Prop
  | done value => keeps value
  | raise failure => OneLine failure.message
  | call mode callee _ next =>
    ∀ result, callee.Answers result → (next (mode.answer result)).Terse keeps
  | ask query next => ∀ s : Scanner, s.TerseRecord → (next (query.answer s)).Terse keeps
  | advance _ next => next.Terse keeps
  | note message next => OneLine message ∧ next.Terse keeps
  | noteAttempt what next => OneLine what ∧ next.Terse keeps
  | takeLog _ => False

theorem Terse.bind {script : Script Y α} {next : α → Script Y β} {keeps' : β → Prop}
    (h : script.Terse keeps) (hnext : ∀ value, keeps value → (next value).Terse keeps') :
    (script.bind next).Terse keeps' := by
  induction script with
  | done value => exact hnext value h
  | raise => exact h
  | call mode callee args script ih => exact fun result hresult => ih _ (h result hresult)
  | ask query script ih => exact fun s hs => ih _ (h s hs)
  | advance count script ih => exact ih h
  | note message script ih | noteAttempt what script ih => exact ⟨h.1, ih h.2⟩
  | takeLog script ih => exact h.elim

theorem terse_parse (callee : Callee ρ) :
    (parse callee : Script Y (callee.Yield Y)).Terse fun value => callee.Answers (.ok value) := by
  intro result hresult
  cases result with
  | ok value => exact hresult
  | error f =>
    cases callee with
    | token | rule => exact hresult

theorem terse_attempt {callee : Callee ρ} {args : List Argument} :
    (attempt callee args : Script Y (Except Failure (callee.Yield Y))).Terse callee.Answers :=
  fun _ h => h

theorem terse_succeeds (callee : Callee ρ) :
    (succeeds callee : Script Y Bool).Terse fun _ => True := by
  intro result _
  cases result <;> trivial

theorem terse_sees (callee : Callee ρ) : (sees callee : Script Y Bool).Terse fun _ => True :=
  fun _ _ => trivial

theorem terse_skip (callee : Callee ρ) : (skip callee : Script Y Unit).Terse fun _ => True :=
  fun _ _ => trivial

theorem terse_failAt (p : Position) {message : String} (h : OneLine message) :
    (failAt p message : Script Y α).Terse keeps := fun _ _ => h

theorem terse_fail {message : String} (h : OneLine message) :
    (fail message : Script Y α).Terse keeps := fun _ _ => terse_failAt _ h

end Script

def Grammar.Terse (g : Grammar) : Prop := ∀ r, (g.body r).Terse fun _ => True

namespace Grammar

open Scanner

variable {g : Grammar} {room : Nat} {s t : Scanner} {α : Type}

/-- What a call comes to if its callee was tidy. -/
theorem invoke_answers {c : Callee g.Rule} {args : List Argument}
    {result : Except Failure (c.Yield g.Yield)}
    (htidy : s.Admits → g.Tidy room c (s.entered args))
    (h : s.invoke (g.kindOf c) (g.run room c) args = .finished result t) : c.Answers result := by
  cases result with
  | error f =>
    have hline := invoke_oneLine (g.calleesFailTidily room) htidy h f rfl
    cases c with
    | token | rule => exact hline
  | ok value =>
    obtain ⟨u, hbody, -⟩ := invoke_place rfl h
    cases c with
    | rule r => trivial
    | token token =>
      cases room with
      | zero => cases hbody
      | succ levels => exact ⟨_, _, Token.takes_of_run hbody⟩

theorem call_record {mode : Mode} {kind : String} {body : Scanner → Outcome α}
    {args : List Argument} {result : Except Failure α} (hs : s.TerseRecord)
    (hresult : ∀ f, result = .error f → OneLine f.message)
    (h : s.call mode kind body args = .finished result t) : t.TerseRecord := by
  intro f hf
  rw [call_lastFailure h] at hf
  split at hf
  · cases result with
    | ok value => cases hf
    | error failure =>
      cases hf
      exact hresult f rfl
  · exact hs f hf

/-- Every run of a terse script is tidy, if those of its callees are. -/
theorem terse_script_tidy (hcallees : ∀ c s, s.lastFailure = none → g.Tidy room c s)
    {keeps : α → Prop} (script : Script g.Yield α) (hscript : script.Terse keeps)
    {heard : List String} (hs : s.TerseRecord) :
    script.Tidy g.kindOf (g.run room) (g.Tidy room) heard s := by
  induction script generalizing heard s with
  | done value => trivial
  | raise failure => exact Or.inr hscript
  | call mode c args next ih =>
    have htidy : s.Admits → g.Tidy room c (s.entered args) := fun _ => hcallees c _ rfl
    refine ⟨htidy, fun result t hcall => ?_⟩
    obtain ⟨u, hinvoke, -⟩ := call_cases hcall
    have hline := invoke_oneLine (g.calleesFailTidily room) htidy hinvoke
    exact ih _ (hscript result (invoke_answers htidy hinvoke)) (call_record hs hline hcall)
  | ask query next ih => exact ih _ (hscript s hs) hs
  | advance count next ih =>
    intro t hadvance
    obtain ⟨front, -, -, heq⟩ := (s.advance_eq_ok_iff t count).mp hadvance
    refine ih hscript ?_
    rw [heq]
    exact hs
  | note message next ih => exact ⟨hscript.1, ih hscript.2 hs⟩
  | noteAttempt what next ih =>
    obtain ⟨log, hnote, -⟩ := s.exists_noteAttempt what
    refine ⟨hscript.1, ih hscript.2 ?_⟩
    rw [hnote]
    exact hs
  | takeLog next ih => exact hscript.elim

theorem Terse.tidy (hg : g.Terse) (room : Nat) (c : Callee g.Rule) (s : Scanner)
    (hs : s.lastFailure = none) : g.Tidy room c s := by
  induction room generalizing c s with
  | zero => trivial
  | succ room ih =>
    cases c with
    | token t => trivial
    | rule r =>
      refine terse_script_tidy (fun c s => ih c s) (g.body r) (hg r) fun f hf => ?_
      rw [hs] at hf
      cases hf

end Grammar

end Descent
