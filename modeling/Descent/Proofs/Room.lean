import Descent.Proofs.Lexemes
import Descent.Proofs.Nesting

/-!
How much room runs need, by the text left. A grammar stays `Within` bounds on its callees if each
body invokes only what needs less than itself on the text that is left by then, where a literal
that was read has shortened the text. Such a grammar is never exhausted with the room that the
bound gives (`run_ne_exhausted_of_within`), whatever the limits are: no scanner is too deep for
that, and the last count of the depth plays no part. So where the limits admit that many levels,
parses do the same as without a bound on nesting (`parseWithin_eq_withoutDepthBound`).
-/
namespace Descent

/-- The number of characters that are gone from the text once the callee has read. -/
def Callee.least {ρ : Type} : Callee ρ → Nat
  | token (.literal text) => text.toList.length
  | _ => 0

/-- The number of characters that are gone behind a call with this answer, where the callee reads
`least` of them at least. -/
def Mode.spent {α : Type} (least : Nat) : (mode : Mode) → mode.Answer α → Nat
  | parse, .ok _ => least
  | skip, true => least
  | _, _ => 0

namespace Script

variable {ρ : Type} {Y : ρ → Type} {α β : Type} {need : Callee ρ → Nat → Nat} {room : Nat}

/-- With so many characters left, `room` suffices for all that the script invokes, where each
callee needs what `need` says. -/
def Within (need : Callee ρ → Nat → Nat) (room : Nat) : Script Y α → Nat → Prop
  | done _, _ | raise _, _ => True
  | call mode callee _ next, n =>
    need callee n ≤ room ∧ ∀ answer m, m + mode.spent callee.least answer ≤ n →
      (next answer).Within need room m
  | ask _ next, n => ∀ answer, (next answer).Within need room n
  | advance _ next, n => next.Within need room n
  | note _ next, n | noteAttempt _ next, n => next.Within need room n
  | takeLog next, n => ∀ answer, (next answer).Within need room n

theorem Within.mono {room' : Nat} {script : Script Y α} {n : Nat}
    (h : script.Within need room n) (hle : room ≤ room') : script.Within need room' n := by
  induction script generalizing n with
  | done | raise => trivial
  | call mode callee args next ih =>
    exact ⟨Nat.le_trans h.1 hle, fun answer m hm => ih answer (h.2 answer m hm)⟩
  | ask _ _ ih | takeLog _ ih => exact fun answer => ih answer (h answer)
  | advance _ _ ih | note _ _ ih | noteAttempt _ _ ih => exact ih h

theorem within_bind {script : Script Y α} {next : α → Script Y β} {n : Nat}
    (h : script.Within need room n)
    (hnext : ∀ value m, m ≤ n → (next value).Within need room m) :
    (script.bind next).Within need room n := by
  induction script generalizing n with
  | done value => exact hnext value n (Nat.le_refl n)
  | raise => trivial
  | call mode callee args f ih =>
    refine ⟨h.1, fun answer m hm => ih answer (h.2 answer m hm) fun value k hk => ?_⟩
    exact hnext value k (by omega)
  | ask _ _ ih | takeLog _ ih => exact fun answer => ih answer (h answer) hnext
  | advance _ _ ih | note _ _ ih | noteAttempt _ _ ih => exact ih h hnext

theorem within_log {message : String} {next : Unit → Script Y β} {n : Nat}
    (h : (next ()).Within need room n) : (log message >>= next).Within need room n := h

theorem within_get {query : Query} {next : query.Answer → Script Y β} {n : Nat}
    (h : ∀ answer, (next answer).Within need room n) :
    (get query >>= next).Within need room n := h

theorem within_parse_last {callee : Callee ρ} {n : Nat} (h : need callee n ≤ room) :
    (parse callee : Script Y (callee.Yield Y)).Within need room n := by
  refine ⟨h, fun answer _ _ => ?_⟩
  cases answer <;> trivial

theorem within_fail (message : String) (n : Nat) :
    (fail message : Script Y α).Within need room n := fun _ _ => trivial

theorem within_parse {callee : Callee ρ} {next : callee.Yield Y → Script Y β} {n : Nat}
    (h : need callee n ≤ room)
    (hnext : ∀ value m, m + callee.least ≤ n → (next value).Within need room m) :
    (parse callee >>= next).Within need room n := by
  refine ⟨h, fun answer m hm => ?_⟩
  cases answer with
  | ok value => exact hnext value m hm
  | error => trivial

theorem within_succeeds {callee : Callee ρ} {next : Bool → Script Y β} {n : Nat}
    (h : need callee n ≤ room)
    (hread : ∀ m, m + callee.least ≤ n → (next true).Within need room m)
    (hnext : ∀ m, m ≤ n → (next false).Within need room m) :
    (succeeds callee >>= next).Within need room n := by
  refine ⟨h, fun answer m hm => ?_⟩
  cases answer with
  | ok => exact hread m hm
  | error => exact hnext m hm

theorem within_attempt {callee : Callee ρ} {args : List Argument}
    {next : Except Failure (callee.Yield Y) → Script Y β} {n : Nat} (h : need callee n ≤ room)
    (hnext : ∀ result m, m ≤ n → (next result).Within need room m) :
    (attempt callee args >>= next).Within need room n :=
  ⟨h, fun answer m hm => hnext answer m (by omega)⟩

theorem within_sees {callee : Callee ρ} {next : Bool → Script Y β} {n : Nat}
    (h : need callee n ≤ room) (hnext : ∀ found m, m ≤ n → (next found).Within need room m) :
    (sees callee >>= next).Within need room n :=
  ⟨h, fun answer m hm => hnext answer m (by omega)⟩

theorem within_skip {callee : Callee ρ} {next : Unit → Script Y β} {n : Nat}
    (h : need callee n ≤ room) (hnext : ∀ m, m ≤ n → (next ()).Within need room m) :
    (skip callee >>= next).Within need room n :=
  ⟨h, fun answer m hm => hnext m (by omega)⟩

end Script

/-- What each callee needs covers its own level and what its body invokes. -/
def Grammar.Within (g : Grammar) (need : Callee g.Rule → Nat → Nat) : Prop :=
  ∀ c n, ∃ room, need c n = room + 1 ∧ (g.script c).Within need room n

theorem Token.script_within {ρ : Type} {Y : ρ → Type} (t : Token)
    (need : Callee ρ → Nat → Nat) (room n : Nat) :
    (t.script : Script Y t.Yield).Within need room n := by
  rw [Token.script_eq]
  intro rest
  change (settle (t.reading rest) : Script Y t.Yield).Within need room n
  cases t.reading rest with
  | error => exact fun _ => trivial
  | ok => trivial

namespace Scanner

variable {α : Type} {s t : Scanner} {kind : String} {body : Scanner → Outcome α}
  {args : List Argument} {result : Except Failure α}

theorem invoke_rest_le (least : Nat)
    (hbody : ∀ u, body (s.entered args) = .finished result u →
      u.rest.length + Mode.parse.spent least result ≤ s.rest.length)
    (h : s.invoke kind body args = .finished result t) :
    t.rest.length + Mode.parse.spent least result ≤ s.rest.length := by
  rcases invoke_cases h with ⟨-, rfl, rfl⟩ | ⟨-, u, hrun, rfl⟩
  · rw [noteOutcome_rest]
    exact Nat.le_refl _
  · rw [noteOutcome_rest]
    exact hbody u hrun

/-- A call that kept its place has shortened the text by what its body has read at least. -/
theorem call_rest_le (least : Nat) {mode : Mode}
    (hbody : ∀ u, body (s.entered args) = .finished result u →
      u.rest.length + Mode.parse.spent least result ≤ s.rest.length)
    (h : s.call mode kind body args = .finished result t) :
    t.rest.length + mode.spent least (mode.answer result) ≤ s.rest.length := by
  obtain ⟨u, hinvoke, rfl⟩ := call_cases h
  have hu := invoke_rest_le least hbody hinvoke
  cases mode with
  | parse =>
    cases result with
    | ok => exact hu
    | error => exact Nat.le_refl _
  | peek => exact Nat.le_refl _
  | skip =>
    cases result with
    | ok => exact hu
    | error => exact Nat.le_refl _

end Scanner

namespace Grammar

open Scanner

variable {g : Grammar} {α : Type}

theorem script_rest_le {room : Nat}
    (hcallees : ∀ c s u (result : Except Failure (c.Yield g.Yield)),
      g.run room c s = .finished result u → u.rest.length ≤ s.rest.length)
    (script : Script g.Yield α) {s t : Scanner} {result : Except Failure α}
    (h : script.run g.kindOf (g.run room) s = .finished result t) :
    t.rest.length ≤ s.rest.length := by
  induction script generalizing s with
  | done | raise =>
    cases h
    exact Nat.le_refl _
  | call mode c args next ih =>
    obtain ⟨answer, u, hcall, hrun⟩ := Script.call_of_run h
    have hu := call_rest_le 0 (fun v hbody => by
      have hv := hcallees c _ v answer hbody
      cases answer <;> exact hv) hcall
    exact Nat.le_trans (ih _ hrun) (Nat.le_trans (Nat.le_add_right _ _) hu)
  | ask query next ih => exact ih _ h
  | advance count next ih =>
    simp only [Script.run] at h
    split at h
    · next u hadvance =>
      obtain ⟨front, hrest, -⟩ := (s.advance_eq_ok_iff u count).mp hadvance
      rw [hrest, List.length_append]
      exact Nat.le_trans (ih h) (Nat.le_add_left _ _)
    · cases h
  | note message next ih =>
    have hle : t.rest.length ≤ (s.note message).rest.length := ih h
    exact hle
  | noteAttempt what next ih =>
    obtain ⟨log, hnote, -⟩ := s.exists_noteAttempt what
    have hrest : (s.noteAttempt what).rest = s.rest := by rw [hnote]
    rw [← hrest]
    exact ih h
  | takeLog next ih =>
    have hle : t.rest.length ≤ s.takeLog.2.rest.length := ih _ h
    exact hle

theorem callee_rest_le {room : Nat} (c : Callee g.Rule) (s u : Scanner)
    (result : Except Failure (c.Yield g.Yield)) (h : g.run room c s = .finished result u) :
    u.rest.length ≤ s.rest.length := by
  induction room generalizing c s u with
  | zero => cases h
  | succ room ih => exact script_rest_le (fun c s u result h => ih c s u result h) (g.script c) h

/-- A callee that came to a value has read as much as it reads at least. -/
theorem callee_spent {room : Nat} (c : Callee g.Rule) (s u : Scanner)
    (result : Except Failure (c.Yield g.Yield)) (h : g.run room c s = .finished result u) :
    u.rest.length + Mode.parse.spent c.least result ≤ s.rest.length := by
  have hle := callee_rest_le c s u result h
  cases result with
  | error => exact hle
  | ok value =>
    match c with
    | .rule _ | .token (.anyOf _) | .token (.pattern _) | .token (.groups _) => exact hle
    | .token (.literal text) =>
      cases room with
      | zero => cases h
      | succ levels =>
        obtain ⟨hrest, -⟩ := Token.eq_of_takes_literal (Token.takes_of_run h)
        rw [hrest, List.length_append, Nat.add_comm]
        exact Nat.le_refl _

theorem script_ne_exhausted_of_within {need : Callee g.Rule → Nat → Nat} {room : Nat}
    (hcallees : ∀ c n s, need c n ≤ room → s.rest.length ≤ n → g.run room c s ≠ .exhausted)
    (script : Script g.Yield α) {n : Nat} (hscript : script.Within need room n) {s : Scanner}
    (hs : s.rest.length ≤ n) : script.run g.kindOf (g.run room) s ≠ .exhausted := by
  induction script generalizing n s with
  | done | raise => simp [Script.run]
  | call mode c args next ih =>
    have hcall : s.call mode (g.kindOf c) (g.run room c) args ≠ .exhausted :=
      call_ne_exhausted fun _ => hcallees c n _ hscript.1 hs
    simp only [Script.run]
    cases hrun : s.call mode (g.kindOf c) (g.run room c) args with
    | finished result t =>
      have hspent := call_rest_le c.least (fun u => callee_spent c _ u result) hrun
      exact ih _ (hscript.2 _ t.rest.length (Nat.le_trans hspent hs)) (Nat.le_refl _)
    | violated => simp
    | exhausted => exact absurd hrun hcall
  | ask query next ih => exact ih _ (hscript _) hs
  | advance count next ih =>
    simp only [Script.run]
    cases hadvance : s.advance count with
    | ok t =>
      obtain ⟨front, hrest, -⟩ := (s.advance_eq_ok_iff t count).mp hadvance
      rw [hrest, List.length_append] at hs
      exact ih hscript (Nat.le_trans (Nat.le_add_left _ _) hs)
    | error => simp
  | note message next ih => exact ih hscript hs
  | noteAttempt what next ih =>
    obtain ⟨log, hnote, -⟩ := s.exists_noteAttempt what
    have hrest : (s.noteAttempt what).rest = s.rest := by rw [hnote]
    refine ih hscript ?_
    rw [hrest]
    exact hs
  | takeLog next ih => exact ih _ (hscript _) hs

theorem Within.callee_ne_exhausted {need : Callee g.Rule → Nat → Nat} (hg : g.Within need)
    {room : Nat} (c : Callee g.Rule) (n : Nat) (s : Scanner) (hroom : need c n ≤ room)
    (hs : s.rest.length ≤ n) : g.run room c s ≠ .exhausted := by
  induction room generalizing c n s with
  | zero =>
    obtain ⟨room, hneed, -⟩ := hg c n
    omega
  | succ levels ih =>
    obtain ⟨room, hneed, hscript⟩ := hg c n
    have hsuffices : (g.script c).Within need levels n := hscript.mono (by omega)
    exact script_ne_exhausted_of_within ih (g.script c) hsuffices hs

/-- A run is not exhausted with the room that its callees need on the text left. -/
theorem Within.run_ne_exhausted {need : Callee g.Rule → Nat → Nat} (hg : g.Within need)
    {room : Nat} (script : Script g.Yield α) {s : Scanner}
    (hscript : script.Within need room s.rest.length) :
    script.run g.kindOf (g.run room) s ≠ .exhausted :=
  script_ne_exhausted_of_within hg.callee_ne_exhausted script hscript (Nat.le_refl _)

/-- Whether or not the bound is another one, a parse ends the same if its run does. -/
theorem complete_bounded {limit : Nat} (o : Outcome α) :
    (complete (o.bounded limit)).toExcept = (complete o).toExcept := by
  cases o with
  | finished result s =>
    cases result with
    | error => rfl
    | ok value =>
      simp only [Outcome.bounded, complete]
      change (if s.atEnd = true then _ else _ : Outcome α).toExcept = _
      cases s.atEnd <;> rfl
  | violated => rfl
  | exhausted => rfl

/-- Bounds that both refuse nothing give the same run. -/
theorem runScript_of_unlimited (script : Script g.Yield α) {first : Scanner} {limit : Nat}
    (hfresh : first.Fresh) (hfree : unlimited ≤ first.limits.maxDepth)
    (hlimit : unlimited ≤ limit) :
    g.runScript script (first.bounded limit) = (g.runScript script first).bounded limit := by
  have hlevels : levels (first.bounded limit).limits = levels first.limits := by
    unfold levels
    change min (limit + 1) unlimited = min (first.limits.maxDepth + 1) unlimited
    omega
  unfold runScript
  rw [hlevels]
  refine run_bounded script fun i hi => ?_
  obtain ⟨below, hreach⟩ := invocationsOf_reachable script i hi
  have hdeeper : i.caller.guard.deeper.depth ≤ unlimited := Nat.min_le_right _ _
  have hlimits := congrArg Limits.maxDepth (hreach.limits hfresh)
  refine ⟨?_, Nat.le_trans hdeeper hlimit⟩
  unfold Admits
  omega

/-- Beyond the largest count, a higher bound does not show. -/
theorem parseWithin_of_unlimited (c : Callee g.Rule) (text : String) {limits : Limits}
    {limit : Nat} (hfree : unlimited ≤ limits.maxDepth) (hlimit : unlimited ≤ limit) :
    g.parseWithin c text (limits.withMaxDepth limit) = g.parseWithin c text limits := by
  have hfresh : (Scanner.ofString text limits).Fresh := ⟨text, limits, Or.inl rfl⟩
  have hsame : g.start c (.ofString text (limits.withMaxDepth limit)) =
      (g.start c (.ofString text limits)).bounded limit :=
    runScript_of_unlimited (g.script c) hfresh hfree hlimit
  unfold parseWithin
  rw [hsame, complete_bounded]

/-- A bound that admits the room which a run needs does not show. -/
theorem runScript_of_room (script : Script g.Yield α) {first : Scanner} {room limit : Nat}
    (hfresh : first.Fresh) (hfree : unlimited ≤ first.limits.maxDepth)
    (hrun : script.run g.kindOf (g.run room) first ≠ .exhausted) (hroom : room ≤ limit) :
    g.runScript script (first.bounded limit) = (g.runScript script first).bounded limit := by
  by_cases hlimit : unlimited ≤ limit
  · exact runScript_of_unlimited script hfresh hfree hlimit
  · have hfits : first.Fits room := by
      have hdepth := hfresh.depth
      exact ⟨by omega, by omega⟩
    have hsame : script.run g.kindOf (g.run room) (first.bounded limit) =
        (script.run g.kindOf (g.run room) first).bounded limit := by
      refine run_bounded script fun i hi => ?_
      have hinside := run_invocations_inside script hfits hfree hrun i hi
      have hlimits := congrArg Limits.maxDepth hinside.limits
      have hdepth := hinside.depth_lt
      have hdeeper : i.caller.guard.deeper.depth = min (i.caller.depth + 1) unlimited := rfl
      have hstart := hfresh.depth
      refine ⟨?_, ?_⟩
      · unfold Admits
        omega
      · rw [bounded_admits_iff]
        omega
    have hlevels : levels (first.bounded limit).limits = min (limit + 1) unlimited := rfl
    have hlevels' : levels first.limits = min (first.limits.maxDepth + 1) unlimited := rfl
    have hbounded : script.run g.kindOf (g.run room) (first.bounded limit) ≠ .exhausted := by
      rw [hsame]
      exact Outcome.bounded_ne_exhausted hrun
    calc g.runScript script (first.bounded limit)
        = script.run g.kindOf (g.run room) (first.bounded limit) :=
          run_of_more_room (by omega) script hbounded
      _ = (script.run g.kindOf (g.run room) first).bounded limit := hsame
      _ = (g.runScript script first).bounded limit :=
          congrArg _ (run_of_more_room (by omega) script hrun).symm

/-- A parse whose callees need no more levels than the bound admits is as one without a bound. -/
theorem Within.parseWithin_eq {need : Callee g.Rule → Nat → Nat} (hg : g.Within need)
    (c : Callee g.Rule) (text : String) (limits : Limits)
    (hneed : need c text.toList.length ≤ limits.maxDepth + 1) :
    g.parseWithin c text limits = g.parseWithin c text limits.withoutDepthBound := by
  obtain ⟨room, hroom, hscript⟩ := hg c text.toList.length
  let first := Scanner.ofString text limits.withoutDepthBound
  have hfresh : first.Fresh := ⟨text, limits.withoutDepthBound, Or.inl rfl⟩
  have hrun : (g.script c).run g.kindOf (g.run room) first ≠ .exhausted :=
    hg.run_ne_exhausted (g.script c) hscript
  have hsame : g.start c (.ofString text limits) = (g.start c first).bounded limits.maxDepth :=
    runScript_of_room (g.script c) hfresh (Nat.le_refl _) hrun (by omega)
  unfold parseWithin
  rw [hsame, complete_bounded]

end Grammar

end Descent
