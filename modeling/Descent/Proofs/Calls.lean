import Descent.Proofs.Cursor
import Descent.Parsing
import Descent.Script.Lemmas

/-!
Calls, by the text they leave. What a run of a grammar yields depends on a scanner through the
text left and the depth, so that its steps are told by the text before and behind them: a token
takes a front part of the text or refuses it, a callee yields a value and leaves a text, and a
call does what its callee does within the bound on nesting. A scanner that `Allows` so many levels
has the room for all that a run of this height tries.
-/
namespace Descent

namespace Token

/-- The token reads a front part of the text, for a value. -/
def Takes (t : Token) (text : List Char) (value : t.Yield) (rest : List Char) : Prop :=
  ∃ front, text = front ++ rest ∧ t.reading text = .ok (Text.width front, value)

def Refuses (t : Token) (text : List Char) : Prop := ∃ reason, t.reading text = .error reason

end Token

/-- The outcome is a value, with so much text left. -/
def Outcome.Yields {α : Type} (o : Outcome α) (value : α) (rest : List Char) : Prop :=
  ∃ t, o = .finished (.ok value) t ∧ t.rest = rest

def Outcome.Fails {α : Type} (o : Outcome α) : Prop :=
  ∃ failure t, o = .finished (.error failure) t

def Mode.textLeft : Mode → List Char → List Char → List Char
  | parse, _, behind => behind
  | peek, before, _ => before
  | skip, _, behind => behind

namespace Scanner

/-- The bound admits so many levels below this one, all short of the largest count, and the room
suffices for the bound or for one level more than those. -/
structure Allows (s : Scanner) (room height : Nat) : Prop where
  fits : s.Fits room
  height_le : s.depth + height ≤ s.limits.maxDepth
  below : s.depth + height < unlimited
  enough : min s.limits.maxDepth (s.depth + height + 1) ≤ s.depth + room

theorem SameFrame.allows {s t : Scanner} {room height : Nat} (h : s.SameFrame t)
    (hs : s.Allows room height) : t.Allows room height := by
  refine ⟨h.fits hs.fits, ?_, ?_, ?_⟩
  · rw [h.depth, h.limits]
    exact hs.height_le
  · rw [h.depth]
    exact hs.below
  · rw [h.depth, h.limits]
    exact hs.enough

theorem Allows.mono {s : Scanner} {room height height' : Nat} (h : s.Allows room height')
    (hle : height ≤ height') : s.Allows room height := by
  have hheight := h.height_le
  have hbelow := h.below
  have henough := h.enough
  exact ⟨h.fits, by omega, by omega, by omega⟩

/-- Below the largest count, the bound admits a level if it is not below it. -/
theorem Fits.admits_iff {s : Scanner} {room : Nat} (h : s.Fits (room + 1)) :
    s.Admits ↔ s.depth + 1 ≤ s.limits.maxDepth := by
  have hroom := h.room_le
  have hdeeper : s.guard.deeper.depth = s.depth + 1 := by
    change min (s.depth + 1) unlimited = s.depth + 1
    omega
  unfold Admits
  rw [hdeeper]

theorem Fits.entered_depth {s : Scanner} {room : Nat} (h : s.Fits (room + 1))
    (args : List Argument) : (s.entered args).depth = s.depth + 1 := by
  have hroom := h.room_le
  change min (s.depth + 1) unlimited = s.depth + 1
  omega

theorem Allows.entered {s : Scanner} {room height : Nat} (h : s.Allows room (height + 1))
    (args : List Argument) :
    s.Admits ∧ ∃ levels, room = levels + 1 ∧ (s.entered args).Allows levels height := by
  have hheight := h.height_le
  have hbelow := h.below
  have henough := h.enough
  obtain ⟨levels, rfl⟩ : ∃ levels, room = levels + 1 := ⟨room - 1, by omega⟩
  have hadmits : s.Admits := h.fits.admits_iff.mpr (by omega)
  have hdepth := h.fits.entered_depth args
  refine ⟨hadmits, levels, rfl, h.fits.entered hadmits args, ?_, ?_, ?_⟩
  · rw [hdepth]
    change s.depth + 1 + height ≤ s.limits.maxDepth
    omega
  · rw [hdepth]
    omega
  · rw [hdepth]
    change min s.limits.maxDepth (s.depth + 1 + height + 1) ≤ s.depth + 1 + levels
    omega

theorem Allows.room_pos {s : Scanner} {room height : Nat} (h : s.Allows room height) :
    s.Admits → 0 < room := by
  intro hadmits
  have hbound : min (s.depth + 1) unlimited ≤ s.limits.maxDepth := hadmits
  have hbelow := h.below
  have henough := h.enough
  omega

theorem settle_rest {α : Type} (mode : Mode) (s u : Scanner) (value : α) :
    (mode.settle s (.ok value) u).rest = mode.textLeft s.rest u.rest := by
  cases mode <;> rfl

theorem settle_rest_error {α : Type} (mode : Mode) (s u : Scanner) (failure : Failure) :
    (mode.settle s (.error failure : Except Failure α) u).rest = s.rest := by
  cases mode <;> rfl

theorem noteOutcome_rest {α : Type} (s start : Scanner) (kind : String)
    (result : Except Failure α) : (s.noteOutcome start kind result).rest = s.rest := by
  obtain ⟨log, hnote, -⟩ := s.exists_noteOutcome start kind result
  rw [hnote]

theorem call_of_admits {α : Type} {s u : Scanner} {kind : String} {body : Scanner → Outcome α}
    {args : List Argument} {result : Except Failure α} (hadmits : s.Admits)
    (h : body (s.entered args) = .finished result u) (mode : Mode) :
    s.call mode kind body args =
      .finished result (mode.settle s result ((s.left u).noteOutcome s kind result)) := by
  unfold call
  rw [invoke_of_admits hadmits, h]

theorem call_of_not_admits {α : Type} {s : Scanner} (h : ¬ s.Admits) (mode : Mode) (kind : String)
    (body : Scanner → Outcome α) (args : List Argument) :
    ∃ failure u, s.call mode kind body args =
      .finished (.error failure) (mode.settle s (.error failure : Except Failure α) u) := by
  unfold call
  rw [invoke_of_not_admits h]
  exact ⟨_, _, rfl⟩

/-- A parse that failed is on record. -/
theorem lastFailure_of_call {α : Type} {s t : Scanner} {kind : String}
    {body : Scanner → Outcome α} {args : List Argument} {failure : Failure}
    (h : s.call .parse kind body args = .finished (.error failure) t) :
    t.lastFailure = some failure := by
  obtain ⟨u, -, rfl⟩ := call_cases h
  rfl

/-- Behind a parse that came to a value no failure is on record. -/
theorem lastFailure_of_call_ok {α : Type} {s t : Scanner} {kind : String}
    {body : Scanner → Outcome α} {args : List Argument} {value : α}
    (h : s.call .parse kind body args = .finished (.ok value) t) : t.lastFailure = none := by
  obtain ⟨u, -, rfl⟩ := call_cases h
  rfl

end Scanner

namespace Grammar

open Scanner

variable {g : Grammar} {room : Nat} {s : Scanner}

theorem call_yields {height : Nat} (hs : s.Allows room (height + 1)) {c : Callee g.Rule}
    (args : List Argument) {value : c.Yield g.Yield} {rest : List Char}
    (h : ∀ levels, (s.entered args).Allows levels height →
      ((g.script c).run g.kindOf (g.run levels) (s.entered args)).Yields value rest)
    (mode : Mode) :
    ∃ u, s.call mode (g.kindOf c) (g.run room c) args = .finished (.ok value) u ∧ s.Onward u ∧
      u.rest = mode.textLeft s.rest rest := by
  obtain ⟨hadmits, levels, rfl, hallows⟩ := hs.entered args
  obtain ⟨t, hrun, hrest⟩ := h levels hallows
  have hcall : s.call mode (g.kindOf c) (g.run (levels + 1) c) args = _ :=
    call_of_admits hadmits hrun mode
  refine ⟨_, hcall, call_onward (g.calleesOnward _) hs.fits hcall, ?_⟩
  rw [settle_rest, noteOutcome_rest]
  exact congrArg _ hrest

theorem call_error (hs : s.Fits room) {c : Callee g.Rule} {args : List Argument} {u : Scanner}
    {failure : Failure} (hadmits : s.Admits)
    (h : g.run room c (s.entered args) = .finished (.error failure) u) (mode : Mode) :
    ∃ failure u, s.call mode (g.kindOf c) (g.run room c) args = .finished (.error failure) u ∧
      s.Onward u ∧ u.rest = s.rest := by
  have hcall : s.call mode (g.kindOf c) (g.run room c) args = _ :=
    call_of_admits hadmits h mode
  refine ⟨failure, _, hcall, call_onward (g.calleesOnward _) hs hcall, ?_⟩
  rw [settle_rest_error]

theorem call_fails {height : Nat} (hs : s.Allows room (height + 1)) {c : Callee g.Rule}
    (args : List Argument)
    (h : ∀ levels, (s.entered args).Allows levels height →
      ((g.script c).run g.kindOf (g.run levels) (s.entered args)).Fails)
    (mode : Mode) :
    ∃ failure u, s.call mode (g.kindOf c) (g.run room c) args = .finished (.error failure) u ∧
      s.Onward u ∧ u.rest = s.rest := by
  obtain ⟨hadmits, levels, rfl, hallows⟩ := hs.entered args
  obtain ⟨failure, t, hrun⟩ := h levels hallows
  exact call_error hs.fits hadmits hrun mode

/-- A call that came to a value was admitted, and its callee came to it one level down. -/
theorem call_ok {c : Callee g.Rule} {args : List Argument} {mode : Mode} {u : Scanner}
    {value : c.Yield g.Yield} (hs : s.Fits room)
    (h : s.call mode (g.kindOf c) (g.run room c) args = .finished (.ok value) u) :
    s.Onward u ∧ s.depth + 1 ≤ s.limits.maxDepth ∧ ∃ levels t, room = levels + 1 ∧
      (s.entered args).Fits levels ∧ (s.entered args).depth = s.depth + 1 ∧
      (g.script c).run g.kindOf (g.run levels) (s.entered args) = .finished (.ok value) t ∧
      u.rest = mode.textLeft s.rest t.rest := by
  refine ⟨call_onward (g.calleesOnward _) hs h, ?_⟩
  obtain ⟨v, hinvoke, rfl⟩ := call_cases h
  rcases invoke_cases hinvoke with ⟨-, hrefused, -⟩ | ⟨hadmits, t, hrun, rfl⟩
  · cases hrefused
  · cases room with
    | zero => cases hrun
    | succ levels =>
      refine ⟨hs.admits_iff.mp hadmits, levels, t, rfl, hs.entered hadmits args,
        hs.entered_depth args, hrun, ?_⟩
      rw [settle_rest, noteOutcome_rest]
      rfl

theorem call_failed {c : Callee g.Rule} {args : List Argument} {mode : Mode} {u : Scanner}
    {failure : Failure} (hs : s.Fits room)
    (h : s.call mode (g.kindOf c) (g.run room c) args = .finished (.error failure) u) :
    s.Onward u ∧ u.rest = s.rest := by
  refine ⟨call_onward (g.calleesOnward _) hs h, ?_⟩
  obtain ⟨v, -, rfl⟩ := call_cases h
  exact settle_rest_error mode s v failure

end Grammar

namespace Token

variable {t : Token}

variable {ρ : Type} {Y : ρ → Type}

theorem run_of_takes {s : Scanner} {value : t.Yield} {rest : List Char}
    (h : t.Takes s.rest value rest) (kind : Callee ρ → String)
    (body : (c : Callee ρ) → Scanner → Outcome (c.Yield Y)) :
    ((t.script : Script Y t.Yield).run kind body s).Yields value rest := by
  obtain ⟨front, htext, hread⟩ := h
  obtain ⟨log, hnote, -⟩ := s.exists_noteAttempt t.what
  have hrest : (s.noteAttempt t.what).rest = front ++ rest := by rw [hnote, htext]
  obtain ⟨u, hadvance, hbehind⟩ := Scanner.advance_of_prefix hrest
  refine ⟨u, ?_, hbehind⟩
  rw [run_script, hread]
  simp only [hadvance]

theorem run_of_refuses {s : Scanner} (h : t.Refuses s.rest) (kind : Callee ρ → String)
    (body : (c : Callee ρ) → Scanner → Outcome (c.Yield Y)) :
    ((t.script : Script Y t.Yield).run kind body s).Fails := by
  obtain ⟨reason, hread⟩ := h
  rw [run_script, hread]
  exact ⟨_, _, rfl⟩

theorem takes_of_run {s u : Scanner} {kind : Callee ρ → String}
    {body : (c : Callee ρ) → Scanner → Outcome (c.Yield Y)} {value : t.Yield}
    (h : (t.script : Script Y t.Yield).run kind body s = .finished (.ok value) u) :
    t.Takes s.rest value u.rest := by
  rw [run_script] at h
  split at h
  · cases h
  · next count value' hread =>
    split at h
    · next v hadvance =>
      cases h
      obtain ⟨front, hrest, hwidth, -⟩ := (Scanner.advance_eq_ok_iff _ _ _).mp hadvance
      obtain ⟨log, hnote, -⟩ := s.exists_noteAttempt t.what
      refine ⟨front, ?_, by rw [hwidth, hread]⟩
      rw [← hrest, hnote]
    · cases h

end Token

namespace Grammar

open Scanner

variable {g : Grammar} {room : Nat} {s : Scanner}

theorem call_token_takes {levels : Nat} (hs : s.Fits (levels + 1)) (hadmits : s.Admits)
    {t : Token} (args : List Argument) {value : t.Yield} {rest : List Char}
    (h : t.Takes s.rest value rest) (mode : Mode) :
    ∃ u, s.call mode (g.kindOf (.token t)) (g.run (levels + 1) (.token t)) args =
        .finished (.ok value) u ∧ s.Onward u ∧ u.rest = mode.textLeft s.rest rest := by
  obtain ⟨v, hrun, hrest⟩ := Token.run_of_takes (s := s.entered args) h g.kindOf (g.run levels)
  have hcall : s.call mode (g.kindOf (.token t)) (g.run (levels + 1) (.token t)) args =
      .finished (.ok value) _ := call_of_admits hadmits hrun mode
  refine ⟨_, hcall, call_onward (c := .token t) (g.calleesOnward _) hs hcall, ?_⟩
  rw [settle_rest, noteOutcome_rest]
  exact congrArg _ hrest

theorem call_token_error {levels : Nat} (hs : s.Fits (levels + 1)) (hadmits : s.Admits)
    {t : Token} (args : List Argument) {reason : Reason} (h : t.reading s.rest = .error reason)
    (mode : Mode) :
    ∃ u, s.call mode (g.kindOf (.token t)) (g.run (levels + 1) (.token t)) args =
        .finished (.error (.ofReason s.location reason)) u ∧ s.Onward u ∧ u.rest = s.rest := by
  have hread : t.reading (s.entered args).rest = .error reason := h
  have hbody : (t.script : Script g.Yield t.Yield).run g.kindOf (g.run levels) (s.entered args) =
      .finished (.error (.ofReason s.location reason)) ((s.entered args).noteAttempt t.what) := by
    rw [Token.run_script, hread]
    rfl
  have hcall : s.call mode (g.kindOf (.token t)) (g.run (levels + 1) (.token t)) args =
      .finished (.error (.ofReason s.location reason)) _ := call_of_admits hadmits hbody mode
  exact ⟨_, hcall, call_failed (c := .token t) hs hcall⟩

theorem call_takes {height : Nat} (hs : s.Allows room (height + 1)) {t : Token}
    (args : List Argument) {value : t.Yield} {rest : List Char} (h : t.Takes s.rest value rest)
    (mode : Mode) :
    ∃ u, s.call mode (g.kindOf (.token t)) (g.run room (.token t)) args =
        .finished (.ok value) u ∧ s.Onward u ∧ u.rest = mode.textLeft s.rest rest := by
  obtain ⟨hadmits, levels, rfl, -⟩ := hs.entered args
  exact call_token_takes hs.fits hadmits args h mode

/-- A token that refuses the text fails, whether or not the bound admits it. -/
theorem call_refused {height : Nat} (hs : s.Allows room height) {t : Token}
    (args : List Argument) (h : t.Refuses s.rest) (mode : Mode) :
    ∃ failure u, s.call mode (g.kindOf (.token t)) (g.run room (.token t)) args =
        .finished (.error failure) u ∧ s.Onward u ∧ u.rest = s.rest := by
  by_cases hadmits : s.Admits
  · obtain ⟨levels, rfl⟩ : ∃ levels, room = levels + 1 :=
      ⟨room - 1, by have := hs.room_pos hadmits; omega⟩
    obtain ⟨failure, u, hrun⟩ :=
      Token.run_of_refuses (s := s.entered args) h g.kindOf (g.run levels)
    exact call_error (c := .token t) hs.fits hadmits hrun mode
  · obtain ⟨failure, u, hcall⟩ :=
      call_of_not_admits hadmits mode (g.kindOf (.token t)) (g.run room (.token t)) args
    refine ⟨failure, _, hcall, call_onward (g.calleesOnward _) hs.fits hcall, ?_⟩
    rw [settle_rest_error]

theorem call_token_ok {t : Token} {args : List Argument} {mode : Mode} {u : Scanner}
    {value : t.Yield} (hs : s.Fits room)
    (h : s.call mode (g.kindOf (.token t)) (g.run room (.token t)) args =
      .finished (.ok value) u) :
    s.Onward u ∧ s.depth + 1 ≤ s.limits.maxDepth ∧ ∃ rest, t.Takes s.rest value rest ∧
      u.rest = mode.textLeft s.rest rest := by
  obtain ⟨honward, hdepth, levels, v, -, -, -, hrun, hrest⟩ := call_ok (c := .token t) hs h
  have htakes : t.Takes (s.entered args).rest value v.rest := Token.takes_of_run hrun
  exact ⟨honward, hdepth, v.rest, htakes, hrest⟩

end Grammar

namespace Script

variable {ρ : Type} {Y : ρ → Type} {α : Type} {kind : Callee ρ → String}
  {body : (c : Callee ρ) → Scanner → Outcome (c.Yield Y)} {mode : Mode} {callee : Callee ρ}
  {args : List Argument} {next : mode.Answer (callee.Yield Y) → Script Y α} {s u : Scanner}
  {result : Except Failure (callee.Yield Y)}

theorem run_call (h : s.call mode (kind callee) (body callee) args = .finished result u) :
    (call mode callee args next).run kind body s =
      (next (mode.answer result)).run kind body u := by
  simp only [run, h]

theorem run_parse {f : callee.Yield Y → Script Y α} {x : callee.Yield Y}
    (h : s.call .parse (kind callee) (body callee) [] = .finished (.ok x) u) :
    (parse callee >>= f).run kind body s = (f x).run kind body u := run_call h

theorem run_attempt {f : Except Failure (callee.Yield Y) → Script Y α}
    (h : s.call .parse (kind callee) (body callee) args = .finished result u) :
    (attempt callee args >>= f).run kind body s = (f result).run kind body u := run_call h

theorem run_log {message : String} {f : Unit → Script Y α} :
    (log message >>= f).run kind body s = (f ()).run kind body (s.note message) := rfl

theorem run_bind_of_ok {β : Type} {script : Script Y β} {f : β → Script Y α} {value : β}
    (h : script.run kind body s = .finished (.ok value) u) :
    (script.bind f).run kind body s = (f value).run kind body u := by
  rw [run_bind, h]
  rfl

theorem run_bind_of_error {β : Type} {script : Script Y β} {f : β → Script Y α}
    {failure : Failure} (h : script.run kind body s = .finished (.error failure) u) :
    (script.bind f).run kind body s = .finished (.error failure) u := by
  rw [run_bind, h]
  rfl

theorem bind_of_run {β : Type} {script : Script Y β} {f : β → Script Y α} {value : α}
    {t : Scanner} (h : (script.bind f).run kind body s = .finished (.ok value) t) :
    ∃ mid u, script.run kind body s = .finished (.ok mid) u ∧
      (f mid).run kind body u = .finished (.ok value) t := by
  rw [run_bind] at h
  cases hrun : script.run kind body s with
  | finished result u =>
    rw [hrun] at h
    cases result with
    | ok mid => exact ⟨mid, u, rfl, h⟩
    | error => cases h
  | violated =>
    rw [hrun] at h
    cases h
  | exhausted =>
    rw [hrun] at h
    cases h

theorem note_of_run {message : String} {rest : Script Y α} {o : Outcome α}
    (h : (note message rest).run kind body s = o) : rest.run kind body (s.note message) = o := h

theorem get_of_run {query : Query} {f : query.Answer → Script Y α} {o : Outcome α}
    (h : (get query >>= f).run kind body s = o) : (f (query.answer s)).run kind body s = o := h

theorem call_of_run {t : Scanner} {end' : Except Failure α}
    (h : (call mode callee args next).run kind body s = .finished end' t) :
    ∃ result u, s.call mode (kind callee) (body callee) args = .finished result u ∧
      (next (mode.answer result)).run kind body u = .finished end' t := by
  simp only [run] at h
  split at h
  · next result u hcall => exact ⟨result, u, hcall, h⟩
  · cases h
  · cases h

theorem attempt_of_run {f : Except Failure (callee.Yield Y) → Script Y α} {t : Scanner}
    {end' : Except Failure α}
    (h : (attempt callee args >>= f).run kind body s = .finished end' t) :
    ∃ result u, s.call .parse (kind callee) (body callee) args = .finished result u ∧
      (f result).run kind body u = .finished end' t := call_of_run h

theorem parse_of_run {f : callee.Yield Y → Script Y α} {value : α} {t : Scanner}
    (h : (parse callee >>= f).run kind body s = .finished (.ok value) t) :
    ∃ x u, s.call .parse (kind callee) (body callee) [] = .finished (.ok x) u ∧
      (f x).run kind body u = .finished (.ok value) t := by
  obtain ⟨answer, u, hcall, hrun⟩ := call_of_run h
  cases answer with
  | error failure => cases hrun
  | ok x => exact ⟨x, u, hcall, hrun⟩

end Script

theorem mapError_eq_ok_iff {ε ε' α : Type} (f : ε → ε') (result : Except ε α) (value : α) :
    result.mapError f = .ok value ↔ result = .ok value := by
  cases result with
  | ok value' =>
    constructor
    · intro h
      cases h
      rfl
    · intro h
      cases h
      rfl
  | error e =>
    constructor
    · intro h
      cases h
    · intro h
      cases h

theorem mapError_eq_error {ε ε' α : Type} {rename : ε → ε'} {result : Except ε α} {e' : ε'}
    (h : result.mapError rename = .error e') : ∃ e, result = .error e ∧ rename e = e' := by
  cases result with
  | ok value => cases h
  | error e =>
    cases h
    exact ⟨e, rfl, rfl⟩

theorem Scanner.ofString_fits (text : String) (limits : Limits) :
    (Scanner.ofString text limits).Fits (Grammar.levels limits) := by
  have hdepth : (Scanner.ofString text limits).depth = 0 := rfl
  have hlevels : Grammar.levels limits = min (limits.maxDepth + 1) unlimited := rfl
  refine ⟨by omega, ?_⟩
  rw [hdepth]
  intro hlast
  exact absurd hlast (by decide)

theorem Scanner.ofString_allows (text : String) {limits : Limits} {height : Nat}
    (h : height ≤ limits.maxDepth) (hbelow : height < unlimited) :
    (Scanner.ofString text limits).Allows (Grammar.levels limits) height := by
  have hdepth : (Scanner.ofString text limits).depth = 0 := rfl
  have hlimits : (Scanner.ofString text limits).limits = limits := rfl
  have hlevels : Grammar.levels limits = min (limits.maxDepth + 1) unlimited := rfl
  refine ⟨ofString_fits text limits, ?_, ?_, ?_⟩ <;> rw [hdepth]
  · rw [hlimits]
    omega
  · omega
  · rw [hlimits]
    omega

namespace Grammar

open Scanner

/-- A parse of a whole text, by the run of the body it starts with. -/
theorem parseWithin_eq_ok_iff (g : Grammar) (c : Callee g.Rule) (text : String) (limits : Limits)
    (value : c.Yield g.Yield) :
    g.parseWithin c text limits = .ok value ↔
      ((g.script c).run g.kindOf (g.run (levels limits)) (.ofString text limits)).Yields
        value [] := by
  have hfresh : (Scanner.ofString text limits).Fresh := ⟨text, limits, Or.inl rfl⟩
  have hfits := ofString_fits text limits
  have hend : ∀ t, (Scanner.ofString text limits).Onward t → (t.atEnd = true ↔ t.rest = []) :=
    fun t honward => (honward.placed hfresh.placed).atEnd_iff
  have hstart : g.start c (.ofString text limits) =
      (g.script c).run g.kindOf (g.run (levels limits)) (.ofString text limits) := rfl
  unfold parseWithin
  rw [hstart]
  constructor
  · intro h
    cases hrun : (g.script c).run g.kindOf (g.run (levels limits)) (.ofString text limits) with
    | finished result t =>
      rw [hrun] at h
      cases result with
      | error failure => cases h
      | ok value' =>
        simp only [complete] at h
        split at h
        · next hatEnd =>
          cases h
          exact ⟨t, rfl, (hend t (run_onward _ hfits hrun)).mp hatEnd⟩
        · cases h
    | violated =>
      rw [hrun] at h
      cases h
    | exhausted =>
      rw [hrun] at h
      cases h
  · intro h
    obtain ⟨t, hrun, hrest⟩ := h
    have hatEnd : t.atEnd = true := (hend t (run_onward _ hfits hrun)).mpr hrest
    rw [hrun]
    simp only [complete, hatEnd, if_true]
    rfl

end Grammar

end Descent
