import Descent.Proofs.Lexemes
import Descent.Proofs.Nesting

/-!
What becomes of refused invocations. At the bound every call fails, with a failure that names the
depth and the bound. A script that passes this failure on, or fails with it on record, says so
itself: its failure `NamesBound`. A script that goes on to something else may not.
-/
namespace Descent

/-- Some link of the chain says that the bound was exceeded. -/
def Failure.NamesBound (limit : Nat) (f : Failure) : Prop :=
  ∃ link ∈ f.chain, link.message = (Reason.tooDeep (limit + 1) limit).message

theorem Failure.namesBound_tooDeep (location : Position) (limit : Nat) :
    (ofReason location (.tooDeep (limit + 1) limit)).NamesBound limit :=
  ⟨_, List.mem_cons_self, rfl⟩

theorem Failure.NamesBound.caused {limit : Nat} {f : Failure} (h : f.NamesBound limit)
    (location : Position) (message : String) :
    (⟨location, message, some f⟩ : Failure).NamesBound limit := by
  obtain ⟨link, hlink, hmessage⟩ := h
  exact ⟨link, List.mem_cons_of_mem _ hlink, hmessage⟩

/-- The outcome is a failure with some property. -/
def Outcome.FailsWith {α : Type} (P : Failure → Prop) (o : Outcome α) : Prop :=
  ∃ failure t, o = .finished (.error failure) t ∧ P failure

theorem Outcome.FailsWith.imp {α : Type} {P Q : Failure → Prop} {o : Outcome α}
    (h : o.FailsWith P) (hPQ : ∀ f, P f → Q f) : o.FailsWith Q := by
  obtain ⟨failure, t, ho, hfailure⟩ := h
  exact ⟨failure, t, ho, hPQ failure hfailure⟩

namespace Scanner

variable {room : Nat} {s t : Scanner}

theorem Onward.place_eq (h : s.Onward t) {front : List Char} (hrest : s.rest = front ++ t.rest) :
    t.location = s.location.advance front := by
  obtain ⟨passed, hpassed, hlocation⟩ := h.passed
  rw [hlocation, List.append_cancel_right (hpassed.symm.trans hrest)]

theorem Onward.location_eq (h : s.Onward t) (hrest : t.rest = s.rest) :
    t.location = s.location := by
  have hnone : s.rest = [] ++ t.rest := hrest.symm
  rw [h.place_eq hnone, Position.advance_nil]

theorem Onward.at_bound (h : s.Onward t) (hbound : s.depth = s.limits.maxDepth) :
    t.depth = t.limits.maxDepth := by
  rw [h.frame.depth, h.frame.limits, hbound]

theorem Ample.allows (hs : s.Ample room) {height : Nat}
    (h : s.depth + height ≤ s.limits.maxDepth) : s.Allows room height := by
  have hroom := hs.fits.room_le
  have hbound := hs.bound_lt
  exact ⟨hs.fits, h, by omega, by omega⟩

theorem Ample.admits_iff (hs : s.Ample room) : s.Admits ↔ s.depth + 1 ≤ s.limits.maxDepth := by
  have hroom := hs.fits.room_le
  have hbound := hs.bound_lt
  unfold Admits
  change min (s.depth + 1) unlimited ≤ s.limits.maxDepth ↔ _
  omega

theorem Ample.entered_depth (hs : s.Ample room) (h : s.depth + 1 ≤ s.limits.maxDepth)
    (args : List Argument) : (s.entered args).depth = s.depth + 1 := by
  have hroom := hs.fits.room_le
  have hbound := hs.bound_lt
  change min (s.depth + 1) unlimited = s.depth + 1
  omega

theorem call_of_invoke {α : Type} {kind : String} {body : Scanner → Outcome α}
    {args : List Argument} {result : Except Failure α}
    (h : s.invoke kind body args = .finished result t) (mode : Mode) :
    s.call mode kind body args = .finished result (mode.settle s result t) := by
  unfold call
  rw [h]

end Scanner

/-- A literal refuses a text for one of two reasons. -/
theorem Token.reading_literal_refused {text : String} {before : List Char}
    (h : text.toList.isPrefixOf before = false) :
    ∃ reason ∈ [Reason.unexpectedEnd text, .literalMismatch text],
      (literal text).reading before = .error reason := by
  simp only [reading, h]
  split
  · exact ⟨_, List.mem_cons_self, rfl⟩
  · exact ⟨_, List.mem_cons_of_mem _ List.mem_cons_self, rfl⟩

theorem Script.bind_failsWith {ρ : Type} {Y : ρ → Type} {α β : Type} {kind : Callee ρ → String}
    {body : (c : Callee ρ) → Scanner → Outcome (c.Yield Y)} {script : Script Y β} {s : Scanner}
    {P : Failure → Prop} (h : (script.run kind body s).FailsWith P) (next : β → Script Y α) :
    ((script.bind next).run kind body s).FailsWith P := by
  obtain ⟨failure, t, hrun, hfailure⟩ := h
  exact ⟨failure, t, run_bind_of_error hrun, hfailure⟩

namespace Grammar

open Scanner

variable {g : Grammar} {room : Nat} {s : Scanner} {c : Callee g.Rule} {P : Failure → Prop}

/-- At the bound every call is refused. -/
theorem call_at_bound (hs : s.Ample room) (hbound : s.depth = s.limits.maxDepth) (mode : Mode)
    (c : Callee g.Rule) (args : List Argument) :
    ∃ u, s.call mode (g.kindOf c) (g.run room c) args =
        .finished (.error (.ofReason s.location
          (.tooDeep (s.limits.maxDepth + 1) s.limits.maxDepth))) u ∧
      s.Onward u ∧ u.rest = s.rest := by
  have hlimit : s.limits.maxDepth < unlimited := by
    have hroom := hs.fits.room_le
    have hlt := hs.bound_lt
    omega
  obtain ⟨log, hinvoke⟩ :=
    invoke_at_bound hs.fits rfl hbound hlimit (g.kindOf c) (g.run room c) args
  have hcall := call_of_invoke hinvoke mode
  exact ⟨_, hcall, call_failed hs.fits hcall⟩

theorem call_failsWith (hs : s.Ample room) (hadmits : s.depth + 1 ≤ s.limits.maxDepth)
    (args : List Argument)
    (h : ∀ levels, (s.entered args).Ample levels → (s.entered args).depth = s.depth + 1 →
      ((g.script c).run g.kindOf (g.run levels) (s.entered args)).FailsWith P)
    (mode : Mode) :
    ∃ failure u, s.call mode (g.kindOf c) (g.run room c) args = .finished (.error failure) u ∧
      P failure := by
  have hadmitted : s.Admits := hs.admits_iff.mpr hadmits
  obtain ⟨levels, rfl, hentered⟩ := hs.entered hadmitted args
  obtain ⟨failure, t, hrun, hfailure⟩ := h levels hentered (hs.entered_depth hadmits args)
  have hcall : s.call mode (g.kindOf c) (g.run (levels + 1) c) args = _ :=
    call_of_admits hadmitted hrun mode
  exact ⟨failure, _, hcall, hfailure⟩

variable {α : Type}

/-- A script that goes on with the value of a callee fails as the callee does. -/
theorem parse_failsWith (hs : s.Ample room) (hadmits : s.depth + 1 ≤ s.limits.maxDepth)
    (h : ∀ levels, (s.entered []).Ample levels → (s.entered []).depth = s.depth + 1 →
      ((g.script c).run g.kindOf (g.run levels) (s.entered [])).FailsWith P)
    (next : c.Yield g.Yield → Script g.Yield α) :
    ((Script.parse c >>= next).run g.kindOf (g.run room) s).FailsWith P := by
  obtain ⟨failure, u, hcall, hfailure⟩ := call_failsWith hs hadmits [] h .parse
  exact ⟨failure, u, Script.run_call hcall, hfailure⟩

theorem parse_at_bound (hs : s.Ample room) (hbound : s.depth = s.limits.maxDepth)
    (c : Callee g.Rule) (next : c.Yield g.Yield → Script g.Yield α) :
    ((Script.parse c >>= next).run g.kindOf (g.run room) s).FailsWith
      (Failure.NamesBound s.limits.maxDepth) := by
  obtain ⟨u, hcall, -, -⟩ := call_at_bound hs hbound .parse c []
  exact ⟨_, u, Script.run_call hcall, Failure.namesBound_tooDeep _ _⟩

theorem skip_at_bound (hs : s.Ample room) (hbound : s.depth = s.limits.maxDepth)
    (c : Callee g.Rule) (next : Unit → Script g.Yield α) :
    ∃ u, s.Onward u ∧ u.rest = s.rest ∧
      (Script.skip c >>= next).run g.kindOf (g.run room) s =
        (next ()).run g.kindOf (g.run room) u := by
  obtain ⟨u, hcall, honward, hrest⟩ := call_at_bound hs hbound .skip c []
  exact ⟨u, honward, hrest, Script.run_call hcall⟩

theorem call_refused_for {t : Token} {reason : Reason} (hs : s.Ample room)
    (hadmits : s.depth + 1 ≤ s.limits.maxDepth) (h : t.reading s.rest = .error reason)
    (mode : Mode) :
    ∃ u, s.call mode (g.kindOf (.token t)) (g.run room (.token t)) [] =
        .finished (.error (.ofReason s.location reason)) u ∧ s.Onward u ∧ u.rest = s.rest := by
  have hadmitted : s.Admits := hs.admits_iff.mpr hadmits
  obtain ⟨levels, rfl, -⟩ := hs.entered hadmitted []
  exact call_token_error hs.fits hadmitted [] h mode

end Grammar

end Descent
