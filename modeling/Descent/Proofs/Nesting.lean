import Descent.Proofs.Calls

/-!
How deep runs nest. The invocations that a run makes, refused ones included, are read off its
script and the scanners it comes by (`Script.invocations`). Two things settle what a bound on
nesting does. A run that is not exhausted does the same with more room (`run_of_more_room`). And
where two bounds admit every invocation that is made, runs under them do the same (`run_bounded`),
by induction on the room and then on the script: no step but the test on entering reads the bound.
-/
namespace Descent

/-- An invocation, by what it invokes and the scanner it is made on. -/
structure Invocation (ρ : Type) where
  callee : Callee ρ
  args : List Argument
  caller : Scanner

def Invocation.inner {ρ : Type} (i : Invocation ρ) : Scanner := i.caller.entered i.args

instance (s : Scanner) : Decidable s.Admits :=
  inferInstanceAs (Decidable (s.guard.deeper.depth ≤ s.limits.maxDepth))

/-- The invocation is made under the limits of a run that starts with `s`, and fewer levels below
its start than there are. -/
structure Invocation.Inside {ρ : Type} (i : Invocation ρ) (s : Scanner) (levels : Nat) :
    Prop where
  limits : i.caller.limits = s.limits
  depth_lt : i.caller.depth < s.depth + levels

/-- The invocations that a run makes, in order. `inside` gives those that the body of an admitted
one makes. -/
def Script.invocations {ρ : Type} {Y : ρ → Type} {α : Type} (kind : Callee ρ → String)
    (body : (c : Callee ρ) → Scanner → Outcome (c.Yield Y))
    (inside : Callee ρ → Scanner → List (Invocation ρ)) :
    Script Y α → Scanner → List (Invocation ρ)
  | done _, _ | raise _, _ => []
  | call mode callee args next, s =>
    let nested := if s.Admits then inside callee (s.entered args) else []
    let behind :=
      match s.call mode (kind callee) (body callee) args with
      | .finished result t => (next (mode.answer result)).invocations kind body inside t
      | .violated _ _ | .exhausted => []
    ⟨callee, args, s⟩ :: (nested ++ behind)
  | ask query next, s => (next (query.answer s)).invocations kind body inside s
  | advance count next, s =>
    match s.advance count with
    | .ok t => next.invocations kind body inside t
    | .error _ => []
  | note message next, s => next.invocations kind body inside (s.note message)
  | noteAttempt what next, s => next.invocations kind body inside (s.noteAttempt what)
  | takeLog next, s => (next s.takeLog.1).invocations kind body inside s.takeLog.2

namespace Grammar

def invocations (g : Grammar) : Nat → Callee g.Rule → Scanner → List (Invocation g.Rule)
  | 0, _, _ => []
  | levels + 1, c, s =>
    (g.script c).invocations g.kindOf (g.run levels) (g.invocations levels) s

/-- The invocations that a script makes as the body of an invocation that is not nested. -/
def invocationsOf {α : Type} (g : Grammar) (script : Script g.Yield α) (s : Scanner) :
    List (Invocation g.Rule) :=
  script.invocations g.kindOf (g.run (levels s.limits)) (g.invocations (levels s.limits)) s

end Grammar

/-- The scanner under another bound on nesting. -/
def Scanner.bounded (limit : Nat) (s : Scanner) : Scanner :=
  { s with limits := s.limits.withMaxDepth limit }

def Outcome.bounded {α : Type} (limit : Nat) : Outcome α → Outcome α
  | finished result s => finished result (s.bounded limit)
  | violated violation s => violated violation (s.bounded limit)
  | exhausted => exhausted

theorem Outcome.bounded_ne_exhausted {α : Type} {limit : Nat} {o : Outcome α}
    (h : o ≠ .exhausted) : o.bounded limit ≠ .exhausted := by
  cases o with
  | finished => simp [bounded]
  | violated => simp [bounded]
  | exhausted => exact absurd rfl h

namespace Scanner

variable {limit : Nat} {s : Scanner}

theorem bounded_admits_iff : (s.bounded limit).Admits ↔ s.guard.deeper.depth ≤ limit := Iff.rfl

theorem bounded_advance (s : Scanner) (count : Nat) :
    (s.bounded limit).advance count = (s.advance count).map (bounded limit) := by
  have hrest : (s.bounded limit).rest = s.rest := rfl
  simp only [advance, hrest]
  cases Text.split count s.rest with
  | some parts => rfl
  | none => cases Text.atLeast count s.rest <;> rfl

theorem bounded_noteAttempt (s : Scanner) (what : String) :
    (s.bounded limit).noteAttempt what = (s.noteAttempt what).bounded limit := by
  unfold noteAttempt
  change (if s.isLogging = true then _ else _) = _
  cases s.isLogging <;> rfl

theorem bounded_noteOutcome {α : Type} (s start : Scanner) (kind : String)
    (result : Except Failure α) :
    (s.bounded limit).noteOutcome (start.bounded limit) kind result =
      (s.noteOutcome start kind result).bounded limit := by
  unfold noteOutcome
  change (if s.isLogging = true then _ else _) = _
  cases s.isLogging with
  | false => rfl
  | true => cases result <;> rfl

theorem bounded_settle {α : Type} (mode : Mode) (s t : Scanner) (result : Except Failure α) :
    mode.settle (s.bounded limit) result (t.bounded limit) =
      (mode.settle s result t).bounded limit := by
  cases mode <;> cases result <;> rfl

theorem bounded_answer (query : Query) (s : Scanner) :
    query.answer (s.bounded limit) = query.answer s := by
  cases query <;> rfl

theorem Fresh.depth {first : Scanner} (hfresh : first.Fresh) : first.depth = 0 := by
  obtain ⟨text, limits, rfl | rfl⟩ := hfresh <;> rfl

/-- There is room for more levels than the bound admits. -/
structure Ample (room : Nat) (s : Scanner) : Prop where
  fits : s.Fits room
  bound_lt : s.limits.maxDepth < s.depth + room

theorem SameFrame.ample {t : Scanner} {room : Nat} (h : s.SameFrame t) (hs : s.Ample room) :
    t.Ample room := by
  refine ⟨h.fits hs.fits, ?_⟩
  rw [h.limits, h.depth]
  exact hs.bound_lt

/-- What is admitted has room to run in, and one level down there is room for one level less. -/
theorem Ample.entered {room : Nat} (hs : s.Ample room) (hadmits : s.Admits)
    (args : List Argument) :
    ∃ levels, room = levels + 1 ∧ (s.entered args).Ample levels := by
  have hroom := hs.fits.room_le
  have hlast := hs.fits.last
  have hbound := hs.bound_lt
  have hdepth : min (s.depth + 1) unlimited ≤ s.limits.maxDepth := hadmits
  obtain ⟨levels, rfl⟩ : ∃ levels, room = levels + 1 := ⟨room - 1, by omega⟩
  refine ⟨levels, rfl, hs.fits.entered hadmits args, ?_⟩
  change s.limits.maxDepth < min (s.depth + 1) unlimited + levels
  omega

/-- A call that both bounds admit does the same under both if its body does. -/
theorem bounded_call {α : Type} {body : Scanner → Outcome α} (mode : Mode) (kind : String)
    {args : List Argument} (hadmits : s.Admits) (hlimit : (s.bounded limit).Admits)
    (hbody : body ((s.entered args).bounded limit) = (body (s.entered args)).bounded limit) :
    (s.bounded limit).call mode kind body args = (s.call mode kind body args).bounded limit := by
  have hentered : (s.bounded limit).entered args = (s.entered args).bounded limit := rfl
  unfold call
  rw [invoke_of_admits hadmits, invoke_of_admits hlimit, hentered, hbody]
  cases body (s.entered args) with
  | finished result t =>
    have hleft : (s.bounded limit).left (t.bounded limit) = (s.left t).bounded limit := rfl
    simp only [Outcome.bounded]
    rw [hleft, bounded_noteOutcome, bounded_settle]
  | violated => rfl
  | exhausted => rfl

theorem call_ne_exhausted {α : Type} {body : Scanner → Outcome α} {mode : Mode} {kind : String}
    {args : List Argument} (h : s.Admits → body (s.entered args) ≠ .exhausted) :
    s.call mode kind body args ≠ .exhausted := by
  unfold call
  by_cases hadmits : s.Admits
  · have hbody := h hadmits
    rw [invoke_of_admits hadmits]
    cases hrun : body (s.entered args) with
    | finished => simp
    | violated => simp
    | exhausted => exact absurd hrun hbody
  · rw [invoke_of_not_admits hadmits]
    simp

/-- A body that is not exhausted may be exchanged for one that does the same here. -/
theorem call_congr {α : Type} {body body' : Scanner → Outcome α} {mode : Mode} {kind : String}
    {args : List Argument}
    (h : body (s.entered args) ≠ .exhausted → body' (s.entered args) = body (s.entered args))
    (hcall : s.call mode kind body args ≠ .exhausted) :
    s.call mode kind body' args = s.call mode kind body args := by
  unfold call at hcall ⊢
  by_cases hadmits : s.Admits
  · rw [invoke_of_admits hadmits] at hcall
    have hbody : body (s.entered args) ≠ .exhausted := by
      intro hrun
      rw [hrun] at hcall
      exact hcall rfl
    rw [invoke_of_admits hadmits, invoke_of_admits hadmits, h hbody]
  · rw [invoke_of_not_admits hadmits, invoke_of_not_admits hadmits]

end Scanner

theorem Invocation.Inside.of_frame {ρ : Type} {i : Invocation ρ} {s t : Scanner} {levels : Nat}
    (h : i.Inside t levels) (hframe : s.SameFrame t) : i.Inside s levels := by
  refine ⟨h.limits.trans hframe.limits, ?_⟩
  rw [← hframe.depth]
  exact h.depth_lt

/-- What nests no deeper than its room from a scanner of the same frame does so from here. -/
theorem Scanner.SameFrame.inside {ρ : Type} {s t : Scanner} {room : Nat}
    {made : List (Invocation ρ)} (hframe : s.SameFrame t) (hs : s.Fits room)
    (hfree : unlimited ≤ s.limits.maxDepth)
    (h : t.Fits room → unlimited ≤ t.limits.maxDepth → ∀ i ∈ made, i.Inside t room) :
    ∀ i ∈ made, i.Inside s room := by
  have hfree' : unlimited ≤ t.limits.maxDepth := by
    rw [hframe.limits]
    exact hfree
  intro i hi
  exact (h (hframe.fits hs) hfree' i hi).of_frame hframe

namespace Grammar

open Scanner

variable {g : Grammar} {α : Type}

theorem script_congr {body body' : (c : Callee g.Rule) → Scanner → Outcome (c.Yield g.Yield)}
    (hcallees : ∀ c s, body c s ≠ .exhausted → body' c s = body c s) (script : Script g.Yield α)
    {s : Scanner} (h : script.run g.kindOf body s ≠ .exhausted) :
    script.run g.kindOf body' s = script.run g.kindOf body s := by
  induction script generalizing s with
  | done | raise => rfl
  | call mode c args next ih =>
    have hcall : s.call mode (g.kindOf c) (body c) args ≠ .exhausted := by
      intro hexhausted
      simp only [Script.run, hexhausted] at h
      exact h rfl
    simp only [Script.run] at h ⊢
    rw [call_congr (hcallees c _) hcall]
    cases hrun : s.call mode (g.kindOf c) (body c) args with
    | finished result t =>
      rw [hrun] at h
      exact ih _ h
    | violated => rfl
    | exhausted => exact absurd hrun hcall
  | ask query next ih => exact ih _ h
  | advance count next ih =>
    simp only [Script.run] at h ⊢
    cases hadvance : s.advance count with
    | ok t =>
      rw [hadvance] at h
      exact ih h
    | error => rfl
  | note message next ih => exact ih h
  | noteAttempt what next ih => exact ih h
  | takeLog next ih => exact ih _ h

theorem callee_of_more_room {room room' : Nat} (hle : room ≤ room') (c : Callee g.Rule)
    (s : Scanner) (h : g.run room c s ≠ .exhausted) : g.run room' c s = g.run room c s := by
  induction room generalizing room' c s with
  | zero => exact absurd rfl h
  | succ levels ih =>
    obtain ⟨levels', rfl⟩ : ∃ levels', room' = levels' + 1 := ⟨room' - 1, by omega⟩
    exact script_congr (ih (by omega)) (g.script c) h

theorem run_of_more_room {room room' : Nat} (hle : room ≤ room') (script : Script g.Yield α)
    {s : Scanner} (h : script.run g.kindOf (g.run room) s ≠ .exhausted) :
    script.run g.kindOf (g.run room') s = script.run g.kindOf (g.run room) s :=
  script_congr (callee_of_more_room hle) script h

theorem script_ne_exhausted {room : Nat}
    (hcallees : ∀ c s levels, room = levels + 1 → s.Ample levels → g.run room c s ≠ .exhausted)
    (script : Script g.Yield α) {s : Scanner} (hs : s.Ample room) :
    script.run g.kindOf (g.run room) s ≠ .exhausted := by
  induction script generalizing s with
  | done | raise => simp [Script.run]
  | call mode c args next ih =>
    have hcall : s.call mode (g.kindOf c) (g.run room c) args ≠ .exhausted := by
      refine call_ne_exhausted fun hadmits => ?_
      obtain ⟨levels, hroom, hentered⟩ := hs.entered hadmits args
      exact hcallees c _ levels hroom hentered
    simp only [Script.run]
    cases hrun : s.call mode (g.kindOf c) (g.run room c) args with
    | finished result t =>
      have hstep := call_onward (g.calleesOnward room) hs.fits hrun
      exact ih _ (hstep.frame.ample hs)
    | violated => simp
    | exhausted => exact absurd hrun hcall
  | ask query next ih => exact ih _ hs
  | advance count next ih =>
    simp only [Script.run]
    cases hadvance : s.advance count with
    | ok t => exact ih ((onward_advance hadvance).frame.ample hs)
    | error => simp
  | note message next ih => exact ih ((s.onward_note message).frame.ample hs)
  | noteAttempt what next ih => exact ih ((s.onward_noteAttempt what).frame.ample hs)
  | takeLog next ih => exact ih _ (s.onward_takeLog.frame.ample hs)

theorem callee_ne_exhausted {room levels : Nat} (hroom : room = levels + 1) (c : Callee g.Rule)
    {s : Scanner} (hs : s.Ample levels) : g.run room c s ≠ .exhausted := by
  induction room generalizing levels c s with
  | zero => exact absurd hroom (by omega)
  | succ room ih =>
    obtain rfl : levels = room := by omega
    exact script_ne_exhausted (fun c s levels' h hs => ih h c hs) (g.script c) hs

/-- A run with room for more levels than its bound admits is not exhausted. -/
theorem run_ne_exhausted {room : Nat} (script : Script g.Yield α) {s : Scanner}
    (hs : s.Ample room) : script.run g.kindOf (g.run room) s ≠ .exhausted :=
  script_ne_exhausted (fun c _ _ h hs => callee_ne_exhausted h c hs) script hs

theorem script_bounded {room limit : Nat}
    (hcallees : ∀ c s,
      (∀ i ∈ g.invocations room c s, i.caller.Admits ∧ (i.caller.bounded limit).Admits) →
      g.run room c (s.bounded limit) = (g.run room c s).bounded limit)
    (script : Script g.Yield α) {s : Scanner}
    (h : ∀ i ∈ script.invocations g.kindOf (g.run room) (g.invocations room) s,
      i.caller.Admits ∧ (i.caller.bounded limit).Admits) :
    script.run g.kindOf (g.run room) (s.bounded limit) =
      (script.run g.kindOf (g.run room) s).bounded limit := by
  induction script generalizing s with
  | done | raise => rfl
  | call mode c args next ih =>
    simp only [Script.invocations, List.forall_mem_cons, List.forall_mem_append] at h
    obtain ⟨⟨hadmits, hlimit⟩, hnested, hbehind⟩ := h
    rw [if_pos hadmits] at hnested
    simp only [Script.run]
    rw [bounded_call mode (g.kindOf c) hadmits hlimit (hcallees c _ hnested)]
    cases hrun : s.call mode (g.kindOf c) (g.run room c) args with
    | finished result t =>
      rw [hrun] at hbehind
      exact ih _ hbehind
    | violated => rfl
    | exhausted => rfl
  | ask query next ih =>
    simp only [Script.run]
    rw [bounded_answer]
    exact ih _ h
  | advance count next ih =>
    simp only [Script.run, Script.invocations, bounded_advance] at h ⊢
    cases hadvance : s.advance count with
    | ok t =>
      rw [hadvance] at h
      exact ih h
    | error => rfl
  | note message next ih => exact ih h
  | noteAttempt what next ih =>
    simp only [Script.run]
    rw [bounded_noteAttempt]
    exact ih h
  | takeLog next ih => exact ih _ h

theorem callee_bounded {room limit : Nat} (c : Callee g.Rule) (s : Scanner)
    (h : ∀ i ∈ g.invocations room c s, i.caller.Admits ∧ (i.caller.bounded limit).Admits) :
    g.run room c (s.bounded limit) = (g.run room c s).bounded limit := by
  induction room generalizing c s with
  | zero => rfl
  | succ room ih => exact script_bounded ih (g.script c) h

/-- Runs under two bounds that both admit all that is invoked do the same. -/
theorem run_bounded {room limit : Nat} (script : Script g.Yield α) {s : Scanner}
    (h : ∀ i ∈ script.invocations g.kindOf (g.run room) (g.invocations room) s,
      i.caller.Admits ∧ (i.caller.bounded limit).Admits) :
    script.run g.kindOf (g.run room) (s.bounded limit) =
      (script.run g.kindOf (g.run room) s).bounded limit :=
  script_bounded (callee_bounded) script h

theorem invocations_token (room : Nat) (t : Token) (s : Scanner) :
    g.invocations room (.token t) s = [] := by
  cases room with
  | zero => rfl
  | succ room =>
    change (t.script : Script g.Yield t.Yield).invocations _ _ _ s = []
    rw [Token.script_eq]
    simp only [Script.invocations]
    cases t.reading (Query.remaining.answer (s.noteAttempt t.what)) with
    | error reason => rfl
    | ok read =>
      simp only [Token.settle, Script.invocations]
      cases (s.noteAttempt t.what).advance read.1 <;> rfl

theorem Reachable.run_unit {first s t : Scanner} {room : Nat} (h : g.Reachable first room s)
    (script : Script g.Yield Unit)
    (hrun : script.run g.kindOf (g.run room) s = .finished (.ok ()) t) :
    g.Reachable first room t := h.run script hrun

/-- Invocations are made on scanners that runs come by, if those of the callees are. -/
theorem script_invocations_reachable {first : Scanner} {room : Nat}
    (hcallees : ∀ c s levels, room = levels + 1 → g.Reachable first levels s →
      ∀ i ∈ g.invocations room c s, ∃ below, g.Reachable first below i.caller)
    (script : Script g.Yield α) {s : Scanner} (hs : g.Reachable first room s) :
    ∀ i ∈ script.invocations g.kindOf (g.run room) (g.invocations room) s,
      ∃ below, g.Reachable first below i.caller := by
  induction script generalizing s with
  | done | raise => simp [Script.invocations]
  | call mode c args next ih =>
    simp only [Script.invocations, List.forall_mem_cons, List.forall_mem_append]
    refine ⟨⟨room, hs⟩, ?_, ?_⟩
    · by_cases hadmits : s.Admits
      · rw [if_pos hadmits]
        cases room with
        | zero => simp [invocations]
        | succ levels => exact hcallees c _ levels rfl (hs.enter hadmits args)
      · simp [hadmits]
    · cases hrun : s.call mode (g.kindOf c) (g.run room c) args with
      | finished result t =>
        exact ih _ (hs.run (.call mode c args .done) (Script.run_call hrun))
      | violated => simp
      | exhausted => simp
  | ask query next ih => exact ih _ hs
  | advance count next ih =>
    simp only [Script.invocations]
    cases hadvance : s.advance count with
    | ok t =>
      refine ih (hs.run_unit (Script.move count) ?_)
      simp only [Script.move, Script.run, hadvance]
    | error => simp
  | note message next ih => exact ih (hs.run_unit (Script.log message) rfl)
  | noteAttempt what next ih => exact ih (hs.run_unit (Script.logAttempt what) rfl)
  | takeLog next ih => exact ih _ (hs.run_unit (.takeLog fun _ => .done ()) rfl)

theorem invocations_reachable {first : Scanner} {room levels : Nat} (hroom : room = levels + 1)
    (c : Callee g.Rule) {s : Scanner} (hs : g.Reachable first levels s) :
    ∀ i ∈ g.invocations room c s, ∃ below, g.Reachable first below i.caller := by
  induction room generalizing levels c s with
  | zero => exact absurd hroom (by omega)
  | succ room ih =>
    obtain rfl : levels = room := by omega
    exact script_invocations_reachable (fun c s levels' h hs => ih h c hs) (g.script c) hs

/-- Where no bound refuses anything, a script nests no deeper than its room, if its callees do
not: what has no room left is exhausted. -/
theorem script_invocations_inside {room : Nat}
    (hcallees : ∀ c s levels, room = levels + 1 → s.Fits levels → unlimited ≤ s.limits.maxDepth →
      g.run room c s ≠ .exhausted → ∀ i ∈ g.invocations room c s, i.Inside s levels)
    (script : Script g.Yield α) {s : Scanner} (hs : s.Fits room)
    (hfree : unlimited ≤ s.limits.maxDepth)
    (h : script.run g.kindOf (g.run room) s ≠ .exhausted) :
    ∀ i ∈ script.invocations g.kindOf (g.run room) (g.invocations room) s, i.Inside s room := by
  induction script generalizing s with
  | done | raise => simp [Script.invocations]
  | call mode c args next ih =>
    have hadmits : s.Admits := Nat.le_trans (Nat.min_le_right _ _) hfree
    have hbody : g.run room c (s.entered args) ≠ .exhausted := by
      intro hexhausted
      have hcall : s.call mode (g.kindOf c) (g.run room c) args = .exhausted := by
        unfold call
        rw [invoke_of_admits hadmits, hexhausted]
      simp only [Script.run, hcall] at h
      exact h rfl
    obtain ⟨levels, rfl⟩ : ∃ levels, room = levels + 1 := by
      cases room with
      | zero => exact absurd rfl hbody
      | succ levels => exact ⟨levels, rfl⟩
    simp only [Script.invocations, List.forall_mem_cons, List.forall_mem_append]
    refine ⟨⟨rfl, Nat.lt_add_of_pos_right (Nat.succ_pos levels)⟩, ?_, ?_⟩
    · rw [if_pos hadmits]
      intro i hi
      have hinside := hcallees c _ levels rfl (hs.entered hadmits args) hfree hbody i hi
      refine ⟨hinside.limits, ?_⟩
      have hdepth := hinside.depth_lt
      rw [hs.entered_depth args] at hdepth
      omega
    · simp only [Script.run] at h
      cases hrun : s.call mode (g.kindOf c) (g.run (levels + 1) c) args with
      | finished result t =>
        rw [hrun] at h
        have hframe := (call_onward (g.calleesOnward _) hs hrun).frame
        exact hframe.inside hs hfree fun ht hfree' => ih _ ht hfree' h
      | violated => simp
      | exhausted => simp
  | ask query next ih => exact ih _ hs hfree h
  | advance count next ih =>
    simp only [Script.invocations, Script.run] at h ⊢
    cases hadvance : s.advance count with
    | ok t =>
      rw [hadvance] at h
      exact (onward_advance hadvance).frame.inside hs hfree fun ht hfree' => ih ht hfree' h
    | error => simp
  | note message next ih =>
    exact (s.onward_note message).frame.inside hs hfree fun ht hfree' => ih ht hfree' h
  | noteAttempt what next ih =>
    exact (s.onward_noteAttempt what).frame.inside hs hfree fun ht hfree' => ih ht hfree' h
  | takeLog next ih =>
    exact s.onward_takeLog.frame.inside hs hfree fun ht hfree' => ih _ ht hfree' h

theorem invocations_inside {room levels : Nat} (hroom : room = levels + 1) (c : Callee g.Rule)
    {s : Scanner} (hs : s.Fits levels) (hfree : unlimited ≤ s.limits.maxDepth)
    (h : g.run room c s ≠ .exhausted) : ∀ i ∈ g.invocations room c s, i.Inside s levels := by
  induction room generalizing levels c s with
  | zero => exact absurd hroom (by omega)
  | succ room ih =>
    obtain rfl : levels = room := by omega
    exact script_invocations_inside (fun c s levels' h hs => ih h c hs) (g.script c) hs hfree h

/-- Where no bound refuses anything, a run that is not exhausted nests no deeper than its room. -/
theorem run_invocations_inside {room : Nat} (script : Script g.Yield α) {s : Scanner}
    (hs : s.Fits room) (hfree : unlimited ≤ s.limits.maxDepth)
    (h : script.run g.kindOf (g.run room) s ≠ .exhausted) :
    ∀ i ∈ script.invocations g.kindOf (g.run room) (g.invocations room) s, i.Inside s room :=
  script_invocations_inside (fun c _ _ h hs => invocations_inside h c hs) script hs hfree h

theorem invocationsOf_reachable {first : Scanner} (script : Script g.Yield α) :
    ∀ i ∈ g.invocationsOf script first, ∃ below, g.Reachable first below i.caller :=
  script_invocations_reachable (fun c _ _ h hs => invocations_reachable h c hs) script .start

theorem Reachable.limits {first s : Scanner} {room : Nat} (h : g.Reachable first room s)
    (hfresh : first.Fresh) : s.limits = first.limits := by
  induction h with
  | start => rfl
  | enter _ _ _ ih => exact ih
  | run hs script hrun ih => exact (run_onward script (hs.fits hfresh) hrun).frame.limits.trans ih

/-- No scanner is deeper than the bound. -/
theorem Reachable.depth_le {first s : Scanner} {room : Nat} (h : g.Reachable first room s)
    (hfresh : first.Fresh) : s.depth ≤ first.limits.maxDepth := by
  induction h with
  | start =>
    have hdepth : first.depth = 0 := hfresh.depth
    omega
  | enter hs hadmits args ih =>
    rw [← hs.limits hfresh]
    exact hadmits
  | run hs script hrun ih =>
    rw [(run_onward script (hs.fits hfresh) hrun).frame.depth]
    exact ih

/-- A level that is entered is taken from the room. -/
theorem Reachable.depth_add_room {first s : Scanner} {room : Nat} (h : g.Reachable first room s)
    (hfresh : first.Fresh) : s.depth + room = levels first.limits := by
  induction h with
  | start => rw [hfresh.depth, Nat.zero_add]
  | enter hs hadmits args ih =>
    rw [(hs.fits hfresh).entered_depth args, ← ih]
    omega
  | run hs script hrun ih =>
    rw [(run_onward script (hs.fits hfresh) hrun).frame.depth]
    exact ih

end Grammar

/-- Below the largest count there is room for more levels than the bound admits. -/
theorem Scanner.Fresh.ample {first : Scanner} (hfresh : first.Fresh)
    (hlimit : first.limits.maxDepth < unlimited) :
    first.Ample (Grammar.levels first.limits) := by
  have hdepth : first.depth = 0 := hfresh.depth
  have hlevels : Grammar.levels first.limits = first.limits.maxDepth + 1 := by
    unfold Grammar.levels
    omega
  rw [hlevels]
  exact ⟨⟨by omega, by omega⟩, by omega⟩

/-- A scanner at the bound refuses the next level: nothing runs, and the failure names the depth
and the bound. -/
theorem Scanner.invoke_at_bound {α : Type} {s : Scanner} {room limit : Nat} (hs : s.Fits room)
    (hbound : s.limits.maxDepth = limit) (hdepth : s.depth = limit) (hlimit : limit < unlimited)
    (kind : String) (body : Scanner → Outcome α) (args : List Argument) :
    ∃ log, s.invoke kind body args =
      .finished (.error ⟨s.location, (Reason.tooDeep (limit + 1) limit).message, none⟩)
        { s with log := log } := by
  have hdeeper : s.guard.deeper.depth = limit + 1 := by
    change min (s.depth + 1) unlimited = limit + 1
    omega
  have hrefused : ¬ s.Admits := by
    unfold Admits
    omega
  obtain ⟨log, hnote, -⟩ :=
    exists_noteOutcome ({ s with guard := s.guard.deeper.leave } : Scanner)
    s kind (.error (.ofReason s.location (.tooDeep (limit + 1) limit)) : Except Failure α)
  refine ⟨log, ?_⟩
  rw [invoke_of_not_admits hrefused, hdeeper, hbound, hnote, hs.leave_deeper (Or.inl hrefused)]
  rfl

/-- A run in which nothing is refused is the same under a higher bound. -/
theorem Grammar.runScript_bounded {g : Grammar} {first : Scanner} (hfresh : first.Fresh)
    {α : Type} (script : Script g.Yield α) {limit : Nat} (hle : first.limits.maxDepth ≤ limit)
    (hadmits : ∀ i ∈ g.invocationsOf script first, i.caller.Admits) :
    g.runScript script (first.bounded limit) = (g.runScript script first).bounded limit := by
  have hsame : script.run g.kindOf (g.run (levels first.limits)) (first.bounded limit) =
      (g.runScript script first).bounded limit := by
    refine run_bounded script fun i hi => ⟨hadmits i hi, ?_⟩
    obtain ⟨below, hreach⟩ := invocationsOf_reachable script i hi
    have hadmitted : i.caller.guard.deeper.depth ≤ i.caller.limits.maxDepth := hadmits i hi
    rw [hreach.limits hfresh] at hadmitted
    exact Scanner.bounded_admits_iff.mpr (Nat.le_trans hadmitted hle)
  rw [← hsame]
  by_cases hlimit : first.limits.maxDepth < unlimited
  · -- the room of the lower bound suffices, since it is not exhausted
    refine run_of_more_room ?_ script ?_
    · unfold levels
      change min (first.limits.maxDepth + 1) unlimited ≤ min (limit + 1) unlimited
      omega
    · rw [hsame]
      exact Outcome.bounded_ne_exhausted (run_ne_exhausted script (hfresh.ample hlimit))
  · have hlevels : levels (first.bounded limit).limits = levels first.limits := by
      unfold levels
      change min (limit + 1) unlimited = min (first.limits.maxDepth + 1) unlimited
      omega
    unfold runScript
    rw [hlevels]

/-- The law of the bound on nesting, for every grammar and every script run from the start of a
text. -/
theorem nesting_stays_bounded (g : Grammar) {first : Scanner} (hfresh : first.Fresh) {α : Type}
    (script : Script g.Yield α) :
    (first.limits.maxDepth < unlimited →
      g.runScript script first ≠ .exhausted ∧
      ∀ i ∈ g.invocationsOf script first,
        -- a body runs at a depth between one and the bound
        (i.caller.Admits → 1 ≤ i.inner.depth ∧ i.inner.depth ≤ first.limits.maxDepth) ∧
        -- an invocation is refused exactly if it is made at the bound
        (¬ i.caller.Admits ↔ i.caller.depth = first.limits.maxDepth) ∧
        -- and then it fails where it was made, whatever the body would have been
        (i.caller.depth = first.limits.maxDepth →
          ∀ {β : Type} (kind : String) (body : Scanner → Outcome β), ∃ log,
            i.caller.invoke kind body i.args =
              .finished
                (.error ⟨i.caller.location,
                  (Reason.tooDeep (first.limits.maxDepth + 1) first.limits.maxDepth).message,
                  none⟩)
                { i.caller with log := log })) ∧
    -- a higher bound changes nothing if none was refused
    ∀ limit, first.limits.maxDepth ≤ limit →
      (∀ i ∈ g.invocationsOf script first, i.caller.Admits) →
      g.runScript script (first.bounded limit) = (g.runScript script first).bounded limit := by
  constructor
  · intro hlimit
    refine ⟨Grammar.run_ne_exhausted script (hfresh.ample hlimit), ?_⟩
    intro i hi
    obtain ⟨below, hreach⟩ := Grammar.invocationsOf_reachable script i hi
    have hlimits := hreach.limits hfresh
    have hdepth := hreach.depth_le hfresh
    have hfits := hreach.fits hfresh
    have hdeeper : i.caller.guard.deeper.depth = i.caller.depth + 1 := by
      change min (i.caller.depth + 1) unlimited = i.caller.depth + 1
      omega
    have hadmits : i.caller.Admits ↔ i.caller.depth + 1 ≤ first.limits.maxDepth := by
      unfold Scanner.Admits
      rw [hdeeper, hlimits]
    refine ⟨fun h => ?_, ?_, fun hbound _ kind body => ?_⟩
    · have hinner : i.inner.depth = i.caller.depth + 1 := hdeeper
      have hle := hadmits.mp h
      omega
    · rw [hadmits]
      omega
    · exact Scanner.invoke_at_bound hfits (congrArg Limits.maxDepth hlimits) hbound hlimit kind
        body i.args
  · intro limit hle hadmits
    exact Grammar.runScript_bounded hfresh script hle hadmits

/-- The law for brackets that are nested just as deep as the bound admits. -/
theorem nesting_stays_bounded_in_brackets :
    let body : Script (fun _ : Unit => Unit) Unit := do
      if ← Script.succeeds (.token (.literal "(")) then
        Script.parse (.rule ())
        discard (Script.parse (.token (.literal ")")))
    let g : Grammar := ⟨Unit, fun _ => Unit, fun _ => "()", fun _ => body⟩
    let first := Scanner.ofString "(())" { maxDepth := 3 }
    first.Fresh ∧ first.limits.maxDepth < unlimited ∧
      (∀ i ∈ g.invocationsOf body first, i.caller.Admits) ∧
      g.runScript body first ≠ .exhausted ∧
      g.runScript body (first.bounded 9) = (g.runScript body first).bounded 9 := by
  intro body g first
  have hfresh : first.Fresh := ⟨"(())", { maxDepth := 3 }, Or.inl rfl⟩
  have hlimit : first.limits.maxDepth < unlimited := by decide
  have hadmits : ∀ i ∈ g.invocationsOf body first, i.caller.Admits := by decide +kernel
  obtain ⟨hbound, hraise⟩ := nesting_stays_bounded g hfresh body
  exact ⟨hfresh, hlimit, hadmits, (hbound hlimit).1, hraise 9 (by decide) hadmits⟩

end Descent
