import Descent.Proofs.Reading

/-!
Which operations a script uses. A script is a tree of operations, and a condition on operations
holds of a script if it holds at every node, whatever the answers are. Conditions pass through
`bind`, so that they are checked one operation after the other.
-/
namespace Descent

inductive Operation (ρ : Type)
  | call (mode : Mode) (callee : Callee ρ)
  | ask (query : Query)
  | advance (count : Nat)
  | note
  | takeLog

namespace Script

variable {ρ : Type} {Y : ρ → Type} {α β : Type} {allowed : Operation ρ → Prop}

/-- All operations of the script are allowed. -/
def Uses (allowed : Operation ρ → Prop) : Script Y α → Prop
  | done _ | raise _ => True
  | call mode callee _ next =>
    allowed (.call mode callee) ∧ ∀ answer, (next answer).Uses allowed
  | ask query next => allowed (.ask query) ∧ ∀ answer, (next answer).Uses allowed
  | advance count next => allowed (.advance count) ∧ next.Uses allowed
  | note _ next | noteAttempt _ next => allowed .note ∧ next.Uses allowed
  | takeLog next => allowed .takeLog ∧ ∀ answer, (next answer).Uses allowed

theorem uses_bind {script : Script Y α} {next : α → Script Y β} (h : script.Uses allowed)
    (hnext : ∀ value, (next value).Uses allowed) : (script.bind next).Uses allowed := by
  induction script with
  | done value => exact hnext value
  | raise => trivial
  | call _ _ _ _ ih | ask _ _ ih | takeLog _ ih =>
    exact ⟨h.1, fun answer => ih answer (h.2 answer)⟩
  | advance _ _ ih | note _ _ ih | noteAttempt _ _ ih => exact ⟨h.1, ih h.2⟩

theorem uses_parse {callee : Callee ρ} (h : allowed (.call .parse callee)) :
    (parse callee : Script Y (callee.Yield Y)).Uses allowed := by
  refine ⟨h, fun answer => ?_⟩
  cases answer <;> trivial

theorem uses_succeeds {callee : Callee ρ} (h : allowed (.call .parse callee)) :
    (succeeds callee : Script Y Bool).Uses allowed := by
  refine ⟨h, fun answer => ?_⟩
  cases answer <;> trivial

theorem uses_attempt {callee : Callee ρ} {args : List Argument}
    (h : allowed (.call .parse callee)) :
    (attempt callee args : Script Y (Except Failure (callee.Yield Y))).Uses allowed :=
  ⟨h, fun _ => trivial⟩

theorem uses_sees {callee : Callee ρ} (h : allowed (.call .peek callee)) :
    (sees callee : Script Y Bool).Uses allowed := ⟨h, fun _ => trivial⟩

theorem uses_skip {callee : Callee ρ} (h : allowed (.call .skip callee)) :
    (skip callee : Script Y Unit).Uses allowed := ⟨h, fun _ => trivial⟩

theorem uses_get {query : Query} (h : allowed (.ask query)) :
    (get query : Script Y query.Answer).Uses allowed := ⟨h, fun _ => trivial⟩

/-- Failing asks for the place and for the failure on record. -/
theorem uses_fail (message : String) (hplace : allowed (.ask .location))
    (hrecord : allowed (.ask .lastFailure)) : (fail message : Script Y α).Uses allowed :=
  ⟨hplace, fun _ => ⟨hrecord, fun _ => trivial⟩⟩

end Script

/-- A token logs, looks at the text left, asks for its place if it fails, and moves over what it
has read. -/
theorem Token.uses_script {ρ : Type} {Y : ρ → Type} {allowed : Operation ρ → Prop} (t : Token)
    (hnote : allowed .note) (hremaining : allowed (.ask .remaining))
    (hlocation : allowed (.ask .location)) (hadvance : ∀ count, allowed (.advance count)) :
    (t.script : Script Y t.Yield).Uses allowed := by
  rw [Token.script_eq]
  refine ⟨hnote, hremaining, fun rest => ?_⟩
  change (settle (t.reading rest) : Script Y t.Yield).Uses allowed
  cases t.reading rest with
  | error reason => exact ⟨hlocation, fun _ => trivial⟩
  | ok read => exact ⟨hadvance read.1, trivial⟩

end Descent
