import Descent.Grammar

/-!
What runs keep. A run moves over text and logs; it leaves the text itself, the limits, the
arguments, the depth, and whether a log is kept as they were. `run_onward` says so for every
script of every grammar, by induction on the room for nested invocations and then on the script.
The count of the depth ends at its largest value, so that a scanner must have `Fits` for the room
below it; `Reachable` gathers the scanners that runs come by, and they all have it.
-/
namespace Descent

namespace Scanner

/-- What an invocation leaves as it was. -/
structure SameFrame (s t : Scanner) : Prop where
  buffer : t.buffer = s.buffer
  limits : t.limits = s.limits
  arguments : t.arguments = s.arguments
  guard : t.guard = s.guard
  logging : t.isLogging = s.isLogging

/-- The second scanner stands at the place of the first one, or further on in the same text. -/
structure Onward (s t : Scanner) : Prop where
  frame : s.SameFrame t
  passed : ∃ front, s.rest = front ++ t.rest ∧ t.location = s.location.advance front

/-- The scanner that the body of an invocation starts with. -/
def entered (s : Scanner) (args : List Argument) : Scanner :=
  { s with guard := s.guard.deeper, arguments := args, lastFailure := none }

/-- The scanner behind a body, with what the caller had put back. -/
def left (s inner : Scanner) : Scanner :=
  { inner with
    guard := inner.guard.leave, arguments := s.arguments, lastFailure := s.lastFailure }

/-- The bound on nesting allows one more level. -/
def Admits (s : Scanner) : Prop := s.guard.deeper.depth ≤ s.limits.maxDepth

/-- So many levels can be counted below this one. At the largest count no level can be told from
the next one, and there the bound must not refuse any. -/
structure Fits (room : Nat) (s : Scanner) : Prop where
  room_le : s.depth + room ≤ unlimited
  last : s.depth = unlimited → unlimited ≤ s.limits.maxDepth

theorem SameFrame.refl (s : Scanner) : s.SameFrame s := ⟨rfl, rfl, rfl, rfl, rfl⟩

theorem SameFrame.trans {s t u : Scanner} (h : s.SameFrame t) (h' : t.SameFrame u) :
    s.SameFrame u :=
  ⟨h'.buffer.trans h.buffer, h'.limits.trans h.limits, h'.arguments.trans h.arguments,
    h'.guard.trans h.guard, h'.logging.trans h.logging⟩

theorem SameFrame.depth {s t : Scanner} (h : s.SameFrame t) : t.depth = s.depth :=
  congrArg Guard.depth h.guard

theorem SameFrame.within {s t : Scanner} {levels : Nat} (h : s.SameFrame t)
    (hle : t.depth + levels ≤ t.limits.maxDepth) : s.depth + levels ≤ s.limits.maxDepth := by
  rw [← h.depth, ← h.limits]
  exact hle

theorem SameFrame.fits {s t : Scanner} {room : Nat} (h : s.SameFrame t) (hs : s.Fits room) :
    t.Fits room :=
  ⟨by rw [h.depth]; exact hs.room_le, by rw [h.depth, h.limits]; exact hs.last⟩

theorem Onward.refl (s : Scanner) : s.Onward s := ⟨.refl s, [], rfl, rfl⟩

theorem Onward.trans {s t u : Scanner} (h : s.Onward t) (h' : t.Onward u) : s.Onward u := by
  obtain ⟨front, hrest, hloc⟩ := h.passed
  obtain ⟨front', hrest', hloc'⟩ := h'.passed
  refine ⟨h.frame.trans h'.frame, front ++ front', ?_, ?_⟩
  · rw [hrest, hrest', List.append_assoc]
  · rw [hloc', hloc, Position.advance_append]

/-- Logging changes the log alone, and keeps none where none is kept. -/
theorem exists_note (s : Scanner) (message : String) :
    ∃ log, s.note message = { s with log := log } ∧ log.isSome = s.log.isSome :=
  ⟨_, rfl, by simp⟩

theorem exists_noteAttempt (s : Scanner) (what : String) :
    ∃ log, s.noteAttempt what = { s with log := log } ∧ log.isSome = s.log.isSome := by
  unfold noteAttempt
  split
  · exact s.exists_note _
  · exact ⟨s.log, rfl, rfl⟩

theorem exists_noteOutcome {α : Type} (s start : Scanner) (kind : String)
    (result : Except Failure α) :
    ∃ log, s.noteOutcome start kind result = { s with log := log } ∧
      log.isSome = s.log.isSome := by
  unfold noteOutcome
  split
  · split
    · exact s.exists_note _
    · exact s.exists_note _
  · exact ⟨s.log, rfl, rfl⟩

theorem onward_withLog (s : Scanner) {log : Option Log} (h : log.isSome = s.log.isSome) :
    s.Onward { s with log := log } :=
  ⟨⟨rfl, rfl, rfl, rfl, h⟩, [], rfl, rfl⟩

theorem onward_note (s : Scanner) (message : String) : s.Onward (s.note message) := by
  obtain ⟨log, hnote, hlog⟩ := s.exists_note message
  rw [hnote]
  exact s.onward_withLog hlog

theorem onward_noteAttempt (s : Scanner) (what : String) : s.Onward (s.noteAttempt what) := by
  obtain ⟨log, hnote, hlog⟩ := s.exists_noteAttempt what
  rw [hnote]
  exact s.onward_withLog hlog

theorem onward_takeLog (s : Scanner) : s.Onward s.takeLog.2 :=
  s.onward_withLog (by simp)

/-- Moving forward succeeds exactly over a part of the text left. -/
theorem advance_eq_ok_iff (s t : Scanner) (count : Nat) :
    s.advance count = .ok t ↔ ∃ front, s.rest = front ++ t.rest ∧ Text.width front = count ∧
      t = { s with rest := t.rest, location := s.location.advance front } := by
  unfold advance
  constructor
  · intro h
    split at h
    · next front back hsplit =>
      obtain ⟨hrest, hwidth⟩ := (Text.split_eq_some_iff _ _ _ _).mp hsplit
      cases h
      exact ⟨front, hrest, hwidth, rfl⟩
    · split at h <;> cases h
  · intro h
    obtain ⟨front, hrest, hwidth, heq⟩ := h
    rw [(Text.split_eq_some_iff _ _ _ _).mpr ⟨hrest, hwidth⟩]
    exact congrArg Except.ok heq.symm

theorem onward_advance {s t : Scanner} {count : Nat} (h : s.advance count = .ok t) :
    s.Onward t := by
  obtain ⟨front, hrest, -, heq⟩ := (s.advance_eq_ok_iff t count).mp h
  have hloc : t.location = s.location.advance front := congrArg Scanner.location heq
  refine ⟨?_, front, hrest, hloc⟩
  rw [heq]
  exact ⟨rfl, rfl, rfl, rfl, rfl⟩

theorem invoke_of_admits {α : Type} {s : Scanner} (h : s.Admits) (kind : String)
    (body : Scanner → Outcome α) (args : List Argument) :
    s.invoke kind body args =
      match body (s.entered args) with
      | .finished result u => .finished result ((s.left u).noteOutcome s kind result)
      | .violated violation u => .violated violation u
      | .exhausted => .exhausted := by
  have hbound : ¬ s.limits.maxDepth < s.guard.deeper.depth := Nat.not_lt.mpr h
  unfold invoke Guard.enter
  rw [if_neg hbound]
  rfl

theorem invoke_of_not_admits {α : Type} {s : Scanner} (h : ¬ s.Admits) (kind : String)
    (body : Scanner → Outcome α) (args : List Argument) :
    s.invoke kind body args =
      .finished
        (.error (.ofReason s.location (.tooDeep s.guard.deeper.depth s.limits.maxDepth)))
        (({ s with guard := s.guard.deeper.leave } : Scanner).noteOutcome s kind
          (.error (.ofReason s.location (.tooDeep s.guard.deeper.depth s.limits.maxDepth)) :
            Except Failure α)) := by
  have hbound : s.limits.maxDepth < s.guard.deeper.depth := Nat.not_le.mp h
  unfold invoke Guard.enter
  rw [if_pos hbound]

/-- An invocation that comes to an end was refused where it was made, or its body ended. -/
theorem invoke_cases {α : Type} {s t : Scanner} {kind : String} {body : Scanner → Outcome α}
    {args : List Argument} {result : Except Failure α}
    (h : s.invoke kind body args = .finished result t) :
    (¬ s.Admits ∧
      result = .error (.ofReason s.location
        (.tooDeep s.guard.deeper.depth s.limits.maxDepth)) ∧
      t = ({ s with guard := s.guard.deeper.leave } : Scanner).noteOutcome s kind result) ∨
    (s.Admits ∧ ∃ u, body (s.entered args) = .finished result u ∧
      t = (s.left u).noteOutcome s kind result) := by
  by_cases hadmits : s.Admits
  · rw [invoke_of_admits hadmits] at h
    refine Or.inr ⟨hadmits, ?_⟩
    split at h
    · next result' u hbody =>
      cases h
      exact ⟨u, hbody, rfl⟩
    · cases h
    · cases h
  · rw [invoke_of_not_admits hadmits] at h
    cases h
    exact Or.inl ⟨hadmits, rfl, rfl⟩

/-- Below a scanner with room, the body has one level less. -/
theorem Fits.entered {s : Scanner} {room : Nat} (hs : s.Fits (room + 1)) (hadmits : s.Admits)
    (args : List Argument) : (s.entered args).Fits room := by
  have hroom := hs.room_le
  have hdeeper : (s.entered args).depth = s.depth + 1 := by
    change min (s.depth + 1) unlimited = s.depth + 1
    omega
  refine ⟨by rw [hdeeper]; omega, fun hlast => ?_⟩
  rw [hdeeper] at hlast
  have hbound : min (s.depth + 1) unlimited ≤ s.limits.maxDepth := hadmits
  change unlimited ≤ s.limits.maxDepth
  omega

theorem Fits.leave_deeper {s : Scanner} {room : Nat} (hs : s.Fits room)
    (h : ¬ s.Admits ∨ 0 < room) : s.guard.deeper.leave = s.guard := by
  have hroom := hs.room_le
  have hlast := hs.last
  have hdepth : min (s.depth + 1) unlimited - 1 = s.depth := by
    rcases h with hrefused | hpos
    · have hbound : ¬ min (s.depth + 1) unlimited ≤ s.limits.maxDepth := hrefused
      omega
    · omega
  exact congrArg Guard.mk hdepth

theorem call_cases {α : Type} {mode : Mode} {s t : Scanner} {kind : String}
    {body : Scanner → Outcome α} {args : List Argument} {result : Except Failure α}
    (h : s.call mode kind body args = .finished result t) :
    ∃ u, s.invoke kind body args = .finished result u ∧ t = mode.settle s result u := by
  unfold call at h
  split at h
  · next result' u hinvoke =>
    cases h
    exact ⟨u, hinvoke, rfl⟩
  · cases h
  · cases h

/-- Whatever the mode, the place behind a call lies between those that the invocation knows. -/
theorem onward_settle {α : Type} {s t : Scanner} (mode : Mode) (result : Except Failure α)
    (h : s.Onward t) : s.Onward (mode.settle s result t) := by
  have hframe := h.frame
  have hback : s.SameFrame (t.returnTo s) :=
    ⟨hframe.buffer, hframe.limits, hframe.arguments, hframe.guard, hframe.logging⟩
  cases mode with
  | parse =>
    cases result with
    | ok =>
      exact ⟨⟨hframe.buffer, hframe.limits, hframe.arguments, hframe.guard, hframe.logging⟩,
        h.passed⟩
    | error =>
      exact ⟨⟨hframe.buffer, hframe.limits, hframe.arguments, hframe.guard, hframe.logging⟩,
        [], rfl, rfl⟩
  | peek => exact ⟨hback, [], rfl, rfl⟩
  | skip =>
    cases result with
    | ok => exact h
    | error => exact ⟨hback, [], rfl, rfl⟩

end Scanner

namespace Grammar

open Scanner

variable (g : Grammar)

/-- Bodies with this much room, run as callees, move onward. -/
def CalleesOnward (room : Nat) : Prop :=
  ∀ (c : Callee g.Rule) (s t : Scanner) (levels : Nat)
    (result : Except Failure (c.Yield g.Yield)),
    room = levels + 1 → s.Fits levels → g.run room c s = .finished result t → s.Onward t

variable {g}

theorem invoke_onward {room : Nat} (hcallees : g.CalleesOnward room) {s t : Scanner}
    (hs : s.Fits room) {c : Callee g.Rule} {args : List Argument}
    {result : Except Failure (c.Yield g.Yield)}
    (h : s.invoke (g.kindOf c) (g.run room c) args = .finished result t) : s.Onward t := by
  rcases invoke_cases h with ⟨hrefused, -, ht⟩ | ⟨hadmits, u, hrun, ht⟩
  · obtain ⟨log, hnote, hlog⟩ := exists_noteOutcome
      ({ s with guard := s.guard.deeper.leave } : Scanner) s (g.kindOf c) result
    rw [ht, hnote, hs.leave_deeper (Or.inl hrefused)]
    exact s.onward_withLog hlog
  · cases room with
    | zero => cases hrun
    | succ levels =>
      have hbody : (s.entered args).Onward u :=
        hcallees c _ _ levels _ rfl (hs.entered hadmits args) hrun
      have hleave : (s.left u).guard = s.guard := by
        change u.guard.leave = s.guard
        rw [hbody.frame.guard]
        exact hs.leave_deeper (Or.inr (Nat.succ_pos levels))
      obtain ⟨log, hnote, hlog⟩ := (s.left u).exists_noteOutcome s (g.kindOf c) result
      have hleft : s.Onward (s.left u) :=
        ⟨⟨hbody.frame.buffer, hbody.frame.limits, rfl, hleave, hbody.frame.logging⟩,
          hbody.passed⟩
      rw [ht, hnote]
      exact hleft.trans ((s.left u).onward_withLog hlog)

theorem call_onward {room : Nat} (hcallees : g.CalleesOnward room) {mode : Mode} {s t : Scanner}
    (hs : s.Fits room) {c : Callee g.Rule} {args : List Argument}
    {result : Except Failure (c.Yield g.Yield)}
    (h : s.call mode (g.kindOf c) (g.run room c) args = .finished result t) : s.Onward t := by
  obtain ⟨u, hinvoke, rfl⟩ := call_cases h
  exact onward_settle mode result (invoke_onward hcallees hs hinvoke)

theorem script_onward {room : Nat} (hcallees : g.CalleesOnward room) {α : Type}
    (script : Script g.Yield α) {s t : Scanner} {result : Except Failure α} (hs : s.Fits room)
    (h : script.run g.kindOf (g.run room) s = .finished result t) : s.Onward t := by
  induction script generalizing s with
  | done | raise =>
    cases h
    exact .refl _
  | call mode c args next ih =>
    simp only [Script.run] at h
    split at h
    · next result' u hcall =>
      have hstep := call_onward hcallees hs hcall
      exact hstep.trans (ih _ (hstep.frame.fits hs) h)
    · cases h
    · cases h
  | ask query next ih => exact ih _ hs h
  | advance count next ih =>
    simp only [Script.run] at h
    split at h
    · next u hadvance =>
      have hstep := onward_advance hadvance
      exact hstep.trans (ih (hstep.frame.fits hs) h)
    · cases h
  | note message next ih =>
    have hstep := s.onward_note message
    exact hstep.trans (ih (hstep.frame.fits hs) h)
  | noteAttempt what next ih =>
    have hstep := s.onward_noteAttempt what
    exact hstep.trans (ih (hstep.frame.fits hs) h)
  | takeLog next ih =>
    have hstep := s.onward_takeLog
    exact hstep.trans (ih _ (hstep.frame.fits hs) h)

/-- The induction over the room: each invocation lowers it. -/
theorem calleesOnward (g : Grammar) (room : Nat) : g.CalleesOnward room := by
  induction room with
  | zero =>
    intro c s t levels result hroom
    exact absurd hroom (by omega)
  | succ room ih =>
    intro c s t levels result hroom hs h
    obtain rfl : levels = room := by omega
    exact script_onward ih (g.script c) hs h

theorem run_onward {room : Nat} {α : Type} (script : Script g.Yield α) {s t : Scanner}
    {result : Except Failure α} (hs : s.Fits room)
    (h : script.run g.kindOf (g.run room) s = .finished result t) : s.Onward t :=
  script_onward (g.calleesOnward room) script hs h

/-- The scanners that runs come by from a first one on, inside of invocations and outside, each
with the room that it has for invocations. What is run in between may be any script. -/
inductive Reachable (g : Grammar) (first : Scanner) : Nat → Scanner → Prop
  | start : Reachable g first (levels first.limits) first
  | enter {room : Nat} {s : Scanner} (h : Reachable g first (room + 1) s) (hadmits : s.Admits)
      (args : List Argument) : Reachable g first room (s.entered args)
  | run {room : Nat} {s t : Scanner} (h : Reachable g first room s) {α : Type}
      (script : Script g.Yield α) {result : Except Failure α}
      (hrun : script.run g.kindOf (g.run room) s = .finished result t) : Reachable g first room t

end Grammar

/-- A scanner at the start of a text, with or without a log. -/
def Scanner.Fresh (s : Scanner) : Prop :=
  ∃ text limits, s = .ofString text limits ∨ s = (Scanner.ofString text limits).withLog

theorem Grammar.Reachable.fits {g : Grammar} {first s : Scanner} {room : Nat}
    (h : g.Reachable first room s) (hfresh : first.Fresh) : s.Fits room := by
  induction h with
  | start =>
    have hdepth : first.depth = 0 := by
      obtain ⟨text, limits, rfl | rfl⟩ := hfresh <;> rfl
    refine ⟨?_, ?_⟩
    · rw [hdepth, Nat.zero_add]
      exact Nat.min_le_right _ _
    · rw [hdepth]
      intro hlast
      exact absurd hlast (by decide)
  | enter _ hadmits args ih => exact ih.entered hadmits args
  | run _ script hrun ih => exact (run_onward script ih hrun).frame.fits ih

end Descent
