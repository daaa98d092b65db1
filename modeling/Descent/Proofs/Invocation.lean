import Descent.Proofs.Logging
import Descent.Session.Grammar

/-!
The law of invocations. Whatever a body does, and however it ends, a call leaves the frame of its
caller as it was; where the caller stands behind it, and which failure it has on record, depends
on the mode and the result alone. The three modes run the same body from the same scanner, so that
they succeed together, and a peek can be put in or taken out without any effect but on the log.
-/
namespace Descent

namespace Scanner

variable {α : Type} {mode : Mode} {s t : Scanner} {kind : String} {body : Scanner → Outcome α}
  {args : List Argument} {result : Except Failure α}

theorem invoke_lastFailure (h : s.invoke kind body args = .finished result t) :
    t.lastFailure = s.lastFailure := by
  rcases invoke_cases h with ⟨-, -, ht⟩ | ⟨-, u, -, ht⟩
  · obtain ⟨log, hnote, -⟩ := exists_noteOutcome
      ({ s with guard := s.guard.deeper.leave } : Scanner) s kind result
    rw [ht, hnote]
  · obtain ⟨log, hnote, -⟩ := (s.left u).exists_noteOutcome s kind result
    rw [ht, hnote]
    rfl

theorem lastFailure_of_call_ne (h : s.call mode kind body args = .finished result t)
    (hmode : mode ≠ .parse) : t.lastFailure = s.lastFailure := by
  obtain ⟨u, hinvoke, rfl⟩ := call_cases h
  rw [← invoke_lastFailure hinvoke]
  cases mode with
  | parse => exact absurd rfl hmode
  | peek => rfl
  | skip => cases result <;> rfl

theorem invoke_place (hok : result.isOk) (h : s.invoke kind body args = .finished result t) :
    ∃ u, body (s.entered args) = .finished result u ∧
      t.location = u.location ∧ t.rest = u.rest := by
  rcases invoke_cases h with ⟨-, hresult, -⟩ | ⟨-, u, hbody, ht⟩
  · rw [hresult] at hok
    exact absurd hok Bool.false_ne_true
  · obtain ⟨log, hnote, -⟩ := (s.left u).exists_noteOutcome s kind result
    refine ⟨u, hbody, ?_⟩
    rw [ht, hnote]
    exact ⟨rfl, rfl⟩

/-- After a failure, and after a peek, the place is that of the caller. -/
theorem settle_back (after : Scanner) (h : mode = .peek ∨ result.isOk = false) :
    (mode.settle s result after).location = s.location ∧
      (mode.settle s result after).rest = s.rest := by
  cases mode with
  | parse =>
    cases result with
    | ok value => exact absurd h (by simp [Except.isOk, Except.toBool])
    | error failure => exact ⟨rfl, rfl⟩
  | peek => exact ⟨rfl, rfl⟩
  | skip =>
    cases result with
    | ok value => exact absurd h (by simp [Except.isOk, Except.toBool])
    | error failure => exact ⟨rfl, rfl⟩

theorem settle_forth (after : Scanner) (hmode : mode ≠ .peek) (hok : result.isOk) :
    (mode.settle s result after).location = after.location ∧
      (mode.settle s result after).rest = after.rest := by
  cases result with
  | error failure => exact absurd hok Bool.false_ne_true
  | ok value =>
    cases mode with
    | parse | skip => exact ⟨rfl, rfl⟩
    | peek => exact absurd rfl hmode

theorem call_other (h : s.call mode kind body args = .finished result t) (other : Mode) :
    ∃ u, s.call other kind body args = .finished result u := by
  obtain ⟨u, hinvoke, -⟩ := call_cases h
  refine ⟨other.settle s result u, ?_⟩
  unfold call
  rw [hinvoke]

/-- What all modes tell about the result. -/
theorem answer_iff (result : Except Failure α) :
    (Mode.peek.answer result = true ↔ ∃ value, Mode.parse.answer result = .ok value) ∧
      (Mode.skip.answer result = true ↔ ∃ value, Mode.parse.answer result = .ok value) := by
  cases result <;> simp [Mode.answer, Except.isOk, Except.toBool]

/-- A scanner with the frame, the place and the record of another differs from it in its log. -/
theorem SameFrame.eq_withLog (hframe : s.SameFrame t) (hplace : t.location = s.location)
    (hrest : t.rest = s.rest) (hrecord : t.lastFailure = s.lastFailure) :
    t = { s with log := t.log } := by
  obtain ⟨hbuffer, hlimits, harguments, hguard, -⟩ := hframe
  cases s
  cases t
  simp_all

theorem SameFrame.alike {watched : Prop} (hframe : s.SameFrame t)
    (ht : t = { s with log := t.log }) : t.Alike watched s := by
  rw [ht]
  exact ⟨rfl, rfl, rfl, rfl, rfl, rfl, rfl, fun _ => hframe.logging⟩

end Scanner

open Scanner

/-- The law of invocations, for every grammar, every callee and arguments, and every scanner that
runs come by. A scanner at the largest depth has no room for a body, so that none of its calls
that are not refused comes to an end. -/
theorem call_leaves_frame (g : Grammar) {first s t : Scanner} {room : Nat} (hfresh : first.Fresh)
    (hs : g.Reachable first room s) (mode : Mode) (c : Callee g.Rule) (args : List Argument)
    {result : Except Failure (c.Yield g.Yield)}
    (hcall : s.call mode (g.kindOf c) (g.run room c) args = .finished result t) :
    -- the frame of the caller
    s.SameFrame t ∧
    -- the place
    (mode = .peek ∨ result.isOk = false → t.location = s.location ∧ t.rest = s.rest) ∧
    (mode ≠ .peek → result.isOk →
      ∃ u, g.run room c (s.entered args) = .finished result u ∧
        t.location = u.location ∧ t.rest = u.rest) ∧
    -- the failure on record
    (mode = .parse → ∀ value, result = .ok value → t.lastFailure = none) ∧
    (mode = .parse → ∀ failure, result = .error failure → t.lastFailure = some failure) ∧
    (mode ≠ .parse → t.lastFailure = s.lastFailure) ∧
    -- the modes agree
    (∀ other : Mode, ∃ u,
      s.call other (g.kindOf c) (g.run room c) args = .finished result u) ∧
    (Mode.peek.answer result = true ↔ ∃ value, Mode.parse.answer result = .ok value) ∧
    (Mode.skip.answer result = true ↔ ∃ value, Mode.parse.answer result = .ok value) ∧
    -- a peek changes nothing but the log, now and in whatever follows it
    (mode = .peek →
      t = { s with log := t.log } ∧
      (g.Discreet True → ∀ {β : Type} (script : Script g.Yield β), script.Discreet True →
        (script.run g.kindOf (g.run room) t).Alike True
          (script.run g.kindOf (g.run room) s))) := by
  have hfits : s.Fits room := hs.fits hfresh
  have honward : s.Onward t := Grammar.call_onward (g.calleesOnward room) hfits hcall
  have hmodes := call_other hcall
  have hkept : mode ≠ .parse → t.lastFailure = s.lastFailure := lastFailure_of_call_ne hcall
  obtain ⟨u, hinvoke, ht⟩ := call_cases hcall
  have hback :
      mode = .peek ∨ result.isOk = false → t.location = s.location ∧ t.rest = s.rest := by
    rw [ht]
    exact settle_back u
  refine ⟨honward.frame, hback, ?_, ?_, ?_, hkept, hmodes, (answer_iff result).1,
    (answer_iff result).2, ?_⟩
  · intro hmode hok
    obtain ⟨v, hbody, hloc, hrest⟩ := invoke_place hok hinvoke
    obtain ⟨hloc', hrest'⟩ := settle_forth (s := s) u hmode hok
    exact ⟨v, hbody, by rw [ht, hloc', hloc], by rw [ht, hrest', hrest]⟩
  · rintro rfl value rfl
    rw [ht]
    rfl
  · rintro rfl failure rfl
    rw [ht]
    rfl
  · rintro rfl
    obtain ⟨hloc, hrest⟩ := hback (Or.inl rfl)
    have heq := honward.frame.eq_withLog hloc hrest (hkept (by decide))
    refine ⟨heq, fun hg β script hscript => ?_⟩
    exact Grammar.run_alike hg room script hscript (honward.frame.alike heq)

/-- Two literals of which the first is read before the second fails: the call goes back to where
it was made, behind the first character. -/
theorem call_leaves_frame_of_half_read :
    let g := Session.grammar []
    let c : Callee g.Rule := .rule (.term (.literals ["a", "b"]))
    let first := (Scanner.ofString "éac" {}).withLog
    let s : Scanner := { first with rest := ['a', 'c'], location := ⟨2, 1, 1⟩ }
    first.Fresh ∧ g.Reachable first 513 s ∧
      ∃ failure t, s.call .parse (g.kindOf c) (g.run 513 c) [] = .finished (.error failure) t ∧
        s.SameFrame t ∧ t.location = ⟨2, 1, 1⟩ ∧ t.lastFailure = some failure := by
  intro g c first s
  have hfresh : first.Fresh := ⟨"éac", {}, Or.inr rfl⟩
  have hmove : (Script.move 2 : Script g.Yield Unit).run g.kindOf (g.run 513) first =
      .finished (.ok ()) s := rfl
  have hs : g.Reachable first 513 s := .run .start (Script.move 2) hmove
  obtain ⟨failure, t, hcall⟩ : ∃ failure t,
      s.call .parse (g.kindOf c) (g.run 513 c) [] = .finished (.error failure) t := ⟨_, _, rfl⟩
  obtain ⟨hframe, hback, -, -, hrecord, -⟩ := call_leaves_frame g hfresh hs .parse c [] hcall
  exact ⟨hfresh, hs, failure, t, hcall, hframe, (hback (Or.inr rfl)).1,
    hrecord rfl failure rfl⟩

end Descent
