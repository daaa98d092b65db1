import Descent.Proofs.Driving
import Descent.Proofs.Refusal

/-!
Failures and the text in front of them. A failure is `Viable` for some texts if what was read up
to its place is the beginning of one of them: the parse went no further than it could. A failed
script is taken apart by its first operation, as a successful one is; the first operation was
refused by the bound, or failed one level down, or the script failed behind it.
-/
namespace Descent

/-- The text left, up to the place of the failure, is the beginning of one of the texts. -/
def Failure.Viable (texts : List Char → Prop) (s : Scanner) (f : Failure) : Prop :=
  ∃ front back more, s.rest = front ++ back ∧ f.location = s.location.advance front ∧
    texts (front ++ more)

namespace Failure.Viable

variable {texts texts' : List Char → Prop} {s t : Scanner} {f : Failure} {front : List Char}

/-- A failure at a place that was reached behind the beginning of one of the texts. -/
theorem of_location (honward : s.Onward t) (hrest : s.rest = front ++ t.rest)
    (hlocation : f.location = t.location) (more : List Char) (h : texts (front ++ more)) :
    f.Viable texts s := by
  obtain ⟨passed, hpassed, hplace⟩ := honward.passed
  obtain rfl : passed = front := List.append_cancel_right (hpassed.symm.trans hrest)
  exact ⟨passed, t.rest, more, hrest, hlocation.trans hplace, h⟩

theorem behind (h : f.Viable texts t) (honward : s.Onward t) (hrest : s.rest = front ++ t.rest)
    (htexts : ∀ text, texts text → ∃ more, texts' (front ++ (text ++ more))) :
    f.Viable texts' s := by
  obtain ⟨passed, hpassed, hplace⟩ := honward.passed
  obtain rfl : passed = front := List.append_cancel_right (hpassed.symm.trans hrest)
  obtain ⟨inner, back, more, hinner, hlocation, htext⟩ := h
  obtain ⟨others, hothers⟩ := htexts _ htext
  refine ⟨passed ++ inner, back, more ++ others, ?_, ?_, ?_⟩
  · rw [hrest, hinner, List.append_assoc]
  · rw [hlocation, hplace, Position.advance_append]
  · simpa only [List.append_assoc] using hothers

end Failure.Viable

namespace Scanner

/-- The bound admits the present level, and there is room for all levels that it admits. -/
structure Ready (room : Nat) (s : Scanner) : Prop where
  ample : s.Ample room
  within : s.depth ≤ s.limits.maxDepth

theorem Onward.ready {s t : Scanner} {room : Nat} (h : s.Onward t) (hs : s.Ready room) :
    t.Ready room := by
  refine ⟨h.frame.ample hs.ample, ?_⟩
  rw [h.frame.depth, h.frame.limits]
  exact hs.within

theorem Fresh.ready {first : Scanner} (hfresh : first.Fresh)
    (hlimit : first.limits.maxDepth < unlimited) :
    first.Ready (Grammar.levels first.limits) := by
  refine ⟨hfresh.ample hlimit, ?_⟩
  rw [hfresh.depth]
  exact Nat.zero_le _

end Scanner

/-- Why a token is not read: the bound admits no call, or the token refuses the text. -/
def Token.Missed (t : Token) (s : Scanner) (reason : Reason) : Prop :=
  (s.depth = s.limits.maxDepth ∧ reason = .tooDeep (s.limits.maxDepth + 1) s.limits.maxDepth) ∨
    (s.depth + 1 ≤ s.limits.maxDepth ∧ t.reading s.rest = .error reason)

/-- A token that is missed behind something that read no text is missed in front of it. -/
theorem Token.Missed.back {t : Token} {s u : Scanner} {reason : Reason} (h : t.Missed u reason)
    (honward : s.Onward u) (hrest : u.rest = s.rest) : t.Missed s reason := by
  unfold Missed at h
  rwa [honward.frame.depth, honward.frame.limits, hrest] at h

namespace Grammar

open Scanner

variable {g : Grammar} {room : Nat} {s u : Scanner} {f : Failure} {mode : Mode}
  {args : List Argument}

/-- A call that failed was refused at the bound, which its failure says, or its callee failed one
level down. -/
theorem call_error_exact (hs : s.Ready room) {c : Callee g.Rule}
    (h : s.call mode (g.kindOf c) (g.run room c) args = .finished (.error f) u) :
    (s.depth = s.limits.maxDepth ∧
      f = .ofReason s.location (.tooDeep (s.limits.maxDepth + 1) s.limits.maxDepth)) ∨
      (s.depth + 1 ≤ s.limits.maxDepth ∧ ∃ levels t, room = levels + 1 ∧
        (s.entered args).Ready levels ∧ (s.entered args).depth = s.depth + 1 ∧
        (g.script c).run g.kindOf (g.run levels) (s.entered args) = .finished (.error f) t) := by
  by_cases hadmits : s.depth + 1 ≤ s.limits.maxDepth
  · right
    have hadmitted : s.Admits := hs.ample.admits_iff.mpr hadmits
    obtain ⟨v, hinvoke, -⟩ := call_cases h
    rcases invoke_cases hinvoke with ⟨hnot, -⟩ | ⟨-, t, hrun, -⟩
    · exact absurd hadmitted hnot
    · obtain ⟨levels, rfl, hentered⟩ := hs.ample.entered hadmitted args
      have hdepth := hs.ample.entered_depth hadmits args
      refine ⟨hadmits, levels, t, rfl, ⟨hentered, ?_⟩, hdepth, hrun⟩
      rw [hdepth]
      exact hadmits
  · left
    have hbound : s.depth = s.limits.maxDepth := by
      have hwithin := hs.within
      omega
    obtain ⟨v, hcall, -⟩ := call_at_bound hs.ample hbound mode c args
    rw [hcall] at h
    cases h
    exact ⟨hbound, rfl⟩

theorem call_error_cases (hs : s.Ready room) {c : Callee g.Rule}
    (h : s.call mode (g.kindOf c) (g.run room c) args = .finished (.error f) u) :
    f.NamesBound s.limits.maxDepth ∨
      (s.depth + 1 ≤ s.limits.maxDepth ∧ ∃ levels t, room = levels + 1 ∧
        (s.entered args).Ready levels ∧ (s.entered args).depth = s.depth + 1 ∧
        (g.script c).run g.kindOf (g.run levels) (s.entered args) = .finished (.error f) t) := by
  refine (call_error_exact hs h).imp_left ?_
  rintro ⟨-, rfl⟩
  exact Failure.namesBound_tooDeep _ _

theorem call_token_missed (hs : s.Ready room) {t : Token}
    (h : s.call mode (g.kindOf (.token t)) (g.run room (.token t)) args =
      .finished (.error f) u) :
    ∃ reason, t.Missed s reason ∧ f = .ofReason s.location reason := by
  rcases call_error_exact (c := .token t) hs h with
    ⟨hbound, hf⟩ | ⟨hadmits, levels, v, -, -, -, hrun⟩
  · exact ⟨_, Or.inl ⟨hbound, rfl⟩, hf⟩
  · have hscript : (t.script : Script g.Yield t.Yield).run g.kindOf (g.run levels)
        (s.entered args) = .finished (.error f) v := hrun
    rw [Token.run_script] at hscript
    obtain ⟨log, hnote, -⟩ := (s.entered args).exists_noteAttempt t.what
    rw [hnote] at hscript
    split at hscript
    · next reason hread =>
      cases hscript
      exact ⟨reason, Or.inr ⟨hadmits, hread⟩, rfl⟩
    · split at hscript <;> cases hscript

/-- Looking for a literal keeps the place, and where it does not see the literal, this was missed.
-/
theorem sees_missed (hs : s.Ready room) {word : String} {α : Type} {end' : Except Failure α}
    {next : Bool → Script g.Yield α}
    (h : (Script.sees (.token (.literal word)) >>= next).run g.kindOf (g.run room) s =
      .finished end' u) :
    ∃ v, s.Onward v ∧ v.rest = s.rest ∧
      ((next true).run g.kindOf (g.run room) v = .finished end' u ∨
        (∃ reason, (Token.literal word).Missed s reason) ∧
          (next false).run g.kindOf (g.run room) v = .finished end' u) := by
  obtain ⟨answer, v, hcall, hrun⟩ := Script.call_of_run h
  cases answer with
  | ok read =>
    obtain ⟨honward, -, _, -, hv⟩ := literal_of_call hs.ample.fits hcall
    exact ⟨v, honward, hv, Or.inl hrun⟩
  | error failure =>
    obtain ⟨reason, hmissed, -⟩ := call_token_missed hs hcall
    obtain ⟨honward, hv⟩ := call_failed hs.ample.fits hcall
    exact ⟨v, honward, hv, Or.inr ⟨⟨reason, hmissed⟩, hrun⟩⟩

end Grammar

namespace Script

variable {ρ : Type} {Y : ρ → Type} {α β : Type} {kind : Callee ρ → String}
  {body : (c : Callee ρ) → Scanner → Outcome (c.Yield Y)} {s t : Scanner} {f : Failure}

theorem bind_error_cases {script : Script Y β} {next : β → Script Y α}
    (h : (script.bind next).run kind body s = .finished (.error f) t) :
    script.run kind body s = .finished (.error f) t ∨
      ∃ mid u, script.run kind body s = .finished (.ok mid) u ∧
        (next mid).run kind body u = .finished (.error f) t := by
  rw [run_bind] at h
  cases hrun : script.run kind body s with
  | finished result u =>
    rw [hrun] at h
    cases result with
    | ok mid => exact Or.inr ⟨mid, u, rfl, h⟩
    | error =>
      cases h
      exact Or.inl rfl
  | violated =>
    rw [hrun] at h
    cases h
  | exhausted =>
    rw [hrun] at h
    cases h

theorem parse_error_cases {callee : Callee ρ} {next : callee.Yield Y → Script Y α}
    (h : (parse callee >>= next).run kind body s = .finished (.error f) t) :
    (∃ u, s.call .parse (kind callee) (body callee) [] = .finished (.error f) u) ∨
      ∃ x u, s.call .parse (kind callee) (body callee) [] = .finished (.ok x) u ∧
        (next x).run kind body u = .finished (.error f) t := by
  obtain ⟨answer, u, hcall, hrun⟩ := call_of_run h
  cases answer with
  | error failure =>
    cases hrun
    exact Or.inl ⟨_, hcall⟩
  | ok x => exact Or.inr ⟨x, u, hcall, hrun⟩

end Script

namespace Grammar

open Scanner

variable {g : Grammar} {room : Nat} {s u : Scanner} {f : Failure} {α : Type}

/-- If a script failed that reads a literal first, then the literal was missed, or the script
failed behind it. -/
theorem literal_error_exact (hs : s.Ready room) {word : String}
    {next : String → Script g.Yield α}
    (h : (Script.parse (.token (.literal word)) >>= next).run g.kindOf (g.run room) s =
      .finished (.error f) u) :
    (∃ reason, (Token.literal word).Missed s reason ∧ f = .ofReason s.location reason) ∨
      (s.depth + 1 ≤ s.limits.maxDepth ∧ ∃ read v, s.Onward v ∧ s.rest = word.toList ++ v.rest ∧
        (next read).run g.kindOf (g.run room) v = .finished (.error f) u) := by
  rcases Script.parse_error_cases h with ⟨v, hcall⟩ | ⟨read, v, hcall, hrun⟩
  · exact Or.inl (call_token_missed hs hcall)
  · obtain ⟨honward, hadmits, rest, htext, hv⟩ := literal_of_call hs.ample.fits hcall
    have hrest : v.rest = rest := hv
    exact Or.inr ⟨hadmits, read, v, honward, by rw [htext, hrest], hrun⟩

end Grammar

end Descent
