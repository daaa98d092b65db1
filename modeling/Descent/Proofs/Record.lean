import Descent.Proofs.Calls
import Descent.Proofs.Invocation
import Descent.Proofs.Lines

/-!
The log as a record of the calls. A run is `Tidy` if its bodies leave the log where it is, and
word what they log and fail with by themselves in one line. What a tidy run logs is nested: by
induction on the room and then on the script, each step writes lines at the depth of the running
invocation, and each invocation a block of deeper lines and the line for its end
(`invoke_closes`). The depth is that of the caller again when this line is written, and the place
still the one that the body reached, whatever the mode of the call.
-/
namespace Descent

open Text (OneLine)

/-- What a call that failed says. -/
def wordsOf {α : Type} : Except Failure α → List String
  | .ok _ => []
  | .error f => [f.message]

/-- Along its run, the script does not take the log, and all that it logs and fails with by itself
is one line. `inside` says the same of the bodies that it invokes, and `heard` is what those that
failed have said so far: to fail as they did is not to fail by itself. -/
def Script.Tidy {ρ : Type} {Y : ρ → Type} {α : Type} (kind : Callee ρ → String)
    (body : (c : Callee ρ) → Scanner → Outcome (c.Yield Y)) (inside : Callee ρ → Scanner → Prop)
    (heard : List String) : Script Y α → Scanner → Prop
  | done _, _ => True
  | raise failure, _ => failure.message ∈ heard ∨ OneLine failure.message
  | call mode callee args next, s =>
    (s.Admits → inside callee (s.entered args)) ∧
      ∀ result t, s.call mode (kind callee) (body callee) args = .finished result t →
        (next (mode.answer result)).Tidy kind body inside (wordsOf result ++ heard) t
  | ask query next, s => (next (query.answer s)).Tidy kind body inside heard s
  | advance count next, s =>
    ∀ t, s.advance count = .ok t → next.Tidy kind body inside heard t
  | note message next, s => OneLine message ∧ next.Tidy kind body inside heard (s.note message)
  | noteAttempt what next, s =>
    OneLine what ∧ next.Tidy kind body inside heard (s.noteAttempt what)
  | takeLog _, _ => False

/-- The run of a body, with room for so many levels, its own among them, is tidy. Tokens say
nothing of their own. -/
def Grammar.Tidy (g : Grammar) : Nat → Callee g.Rule → Scanner → Prop
  | 0, _, _ => True
  | _ + 1, .token _, _ => True
  | levels + 1, .rule r, s => (g.body r).Tidy g.kindOf (g.run levels) (g.Tidy levels) [] s

/-- The log of the second scanner goes on from the log of the first with nested lines. -/
def Scanner.Nests (s t : Scanner) : Prop :=
  ∃ added : Log, t.log = s.log.map (added ++ ·) ∧ added.Nested s.depth

/-- A token logs its attempt, and nothing else. -/
def Callee.Attempts {ρ : Type} (s : Scanner) (added : Log) : Callee ρ → Prop
  | .token t => added = [⟨s.depth, s.attempt t.what⟩]
  | .rule _ => True

namespace Scanner

variable {s t u : Scanner}

theorem Nests.refl (s : Scanner) : s.Nests s := ⟨[], by simp, .nil _⟩

theorem Nests.trans (h : s.Nests t) (hdepth : t.depth = s.depth) (h' : t.Nests u) :
    s.Nests u := by
  obtain ⟨added, hlog, hnested⟩ := h
  obtain ⟨later, hlog', hnested'⟩ := h'
  rw [hdepth] at hnested'
  refine ⟨later ++ added, ?_, hnested'.append hnested⟩
  rw [hlog', hlog, Option.map_map]
  congr 1
  funext log
  exact (List.append_assoc later added log).symm

theorem nests_of_line {message : String} (hmessage : OneLine message)
    (hlog : t.log = s.log.map (⟨s.depth, message⟩ :: ·)) : s.Nests t :=
  ⟨[⟨s.depth, message⟩], hlog, (Log.Nested.nil _).line hmessage⟩

theorem advance_log {count : Nat} (h : s.advance count = .ok t) : t.log = s.log := by
  obtain ⟨front, -, -, heq⟩ := (s.advance_eq_ok_iff t count).mp h
  rw [heq]

theorem settle_log {α : Type} (mode : Mode) (s t : Scanner) (result : Except Failure α) :
    (mode.settle s result t).log = t.log := by
  cases mode <;> cases result <;> rfl

end Scanner

theorem Token.run_log {ρ : Type} {Y : ρ → Type} {t : Token} {kind : Callee ρ → String}
    {body : (c : Callee ρ) → Scanner → Outcome (c.Yield Y)} {s u : Scanner}
    {result : Except Failure t.Yield}
    (h : (t.script : Script Y t.Yield).run kind body s = .finished result u) :
    u.log = s.log.map (⟨s.depth, s.attempt t.what⟩ :: ·) ∧
      ∀ f, result = .error f → OneLine f.message := by
  rw [run_script] at h
  split at h
  · next reason hread =>
    cases h
    refine ⟨s.noteAttempt_log t.what, fun f hf => ?_⟩
    cases hf
    exact reason.oneLine_message
  · split at h
    · next hadvance =>
      cases h
      refine ⟨?_, fun f hf => nomatch hf⟩
      rw [Scanner.advance_log hadvance, s.noteAttempt_log t.what]
    · cases h

namespace Grammar

open Scanner

variable {g : Grammar} {room : Nat} {s t : Scanner} {α : Type} {heard : List String}

/-- Bodies whose runs are tidy fail with messages of one line. -/
def CalleesFailTidily (g : Grammar) (room : Nat) : Prop :=
  ∀ (c : Callee g.Rule) (s t : Scanner) (f : Failure),
    g.Tidy room c s → g.run room c s = .finished (.error f) t → OneLine f.message

theorem invoke_oneLine (hcallees : g.CalleesFailTidily room) {c : Callee g.Rule}
    {args : List Argument} {result : Except Failure (c.Yield g.Yield)}
    (htidy : s.Admits → g.Tidy room c (s.entered args))
    (h : s.invoke (g.kindOf c) (g.run room c) args = .finished result t) :
    ∀ f, result = .error f → OneLine f.message := by
  rintro f rfl
  rcases invoke_cases h with ⟨-, hrefused, -⟩ | ⟨hadmits, u, hbody, -⟩
  · cases hrefused
    exact Reason.oneLine_message _
  · exact hcallees c _ u f (htidy hadmits) hbody

theorem call_words (hcallees : g.CalleesFailTidily room) {mode : Mode} {c : Callee g.Rule}
    {args : List Argument} {result : Except Failure (c.Yield g.Yield)}
    (htidy : s.Admits → g.Tidy room c (s.entered args))
    (h : s.call mode (g.kindOf c) (g.run room c) args = .finished result t)
    (hheard : ∀ words ∈ heard, OneLine words) :
    ∀ words ∈ wordsOf result ++ heard, OneLine words := by
  obtain ⟨u, hinvoke, -⟩ := call_cases h
  have hresult := invoke_oneLine hcallees htidy hinvoke
  cases result with
  | ok value => exact hheard
  | error f => exact List.forall_mem_cons.mpr ⟨hresult f rfl, hheard⟩

theorem script_oneLine (hcallees : g.CalleesFailTidily room) (script : Script g.Yield α)
    {f : Failure} (hheard : ∀ words ∈ heard, OneLine words)
    (htidy : script.Tidy g.kindOf (g.run room) (g.Tidy room) heard s)
    (h : script.run g.kindOf (g.run room) s = .finished (.error f) t) : OneLine f.message := by
  induction script generalizing heard s with
  | done value => cases h
  | raise failure =>
    cases h
    rcases htidy with hagain | hline
    · exact hheard _ hagain
    · exact hline
  | call mode c args next ih =>
    obtain ⟨result, u, hcall, hrun⟩ := Script.call_of_run h
    exact ih _ (call_words hcallees htidy.1 hcall hheard) (htidy.2 result u hcall) hrun
  | ask query next ih => exact ih _ hheard htidy h
  | advance count next ih =>
    simp only [Script.run] at h
    split at h
    · next u hadvance => exact ih hheard (htidy u hadvance) h
    · cases h
  | note message next ih => exact ih hheard htidy.2 h
  | noteAttempt what next ih => exact ih hheard htidy.2 h
  | takeLog next ih => exact htidy.elim

theorem calleesFailTidily (g : Grammar) (room : Nat) : g.CalleesFailTidily room := by
  induction room with
  | zero =>
    intro c s t f _ h
    cases h
  | succ room ih =>
    intro c s t f htidy h
    cases c with
    | token t => exact (Token.run_log h).2 f rfl
    | rule r => exact script_oneLine ih (g.body r) (List.forall_mem_nil _) htidy h

/-- The log of an invocation that came to an end: `block` is what its body has logged, and
`outcome` the line for the end. -/
structure Closes (g : Grammar) (room : Nat) (c : Callee g.Rule) (args : List Argument)
    (s : Scanner) (result : Except Failure (c.Yield g.Yield)) (t : Scanner) (block : Log)
    (outcome : String) : Prop where
  log : t.log = s.log.map fun log => ⟨s.depth, outcome⟩ :: (block ++ log)
  nested : block.Nested (s.depth + 1)
  oneLine : OneLine outcome
  refused : ¬ s.Admits → block = []
  attempted : s.Admits → c.Attempts (s.entered args) block
  failed : ∀ f, result = .error f → outcome = "! " ++ f.location.display ++ ": " ++ f.message
  succeeded : ∀ value, result = .ok value → s.Admits ∧ ∃ u,
    g.run room c (s.entered args) = .finished result u ∧
    outcome = "+ " ++ g.kindOf c ++ " " ++ Text.quotedList (u.textSince s)

/-- Bodies with this much room log nested lines if their runs are tidy. -/
def CalleesNest (g : Grammar) (room : Nat) : Prop :=
  ∀ (c : Callee g.Rule) (s t : Scanner) (levels : Nat)
    (result : Except Failure (c.Yield g.Yield)),
    room = levels + 1 → s.Fits levels → g.Tidy room c s → g.run room c s = .finished result t →
    ∃ added : Log, t.log = s.log.map (added ++ ·) ∧ added.Nested s.depth ∧ c.Attempts s added

theorem oneLine_kindOf (hkinds : ∀ r, OneLine (g.kind r)) (c : Callee g.Rule) :
    OneLine (g.kindOf c) := by
  cases c with
  | token t => exact t.oneLine_kind
  | rule r => exact hkinds r

theorem closes_of_refused (hs : s.Fits room) {c : Callee g.Rule} (hkind : OneLine (g.kindOf c))
    {args : List Argument} {result : Except Failure (c.Yield g.Yield)} (hrefused : ¬ s.Admits)
    (h : s.invoke (g.kindOf c) (g.run room c) args = .finished result t) :
    g.Closes room c args s result t [] (s.outcome s (g.kindOf c) result) := by
  rw [invoke_of_not_admits hrefused, hs.leave_deeper (Or.inl hrefused)] at h
  cases h
  refine ⟨s.noteOutcome_log s (g.kindOf c) _, .nil _, ?_, fun _ => rfl,
    fun hadmits => absurd hadmits hrefused, ?_, fun _ h => nomatch h⟩
  · refine s.oneLine_outcome s hkind fun f hf => ?_
    cases hf
    exact Reason.oneLine_message _
  · intro f hf
    cases hf
    rfl

/-- The level of the body is left before the line for the end is logged, and the place of the body
only after it. -/
theorem closes_of_body {levels : Nat} {u : Scanner} (hs : s.Fits (levels + 1)) {c : Callee g.Rule}
    (hkind : OneLine (g.kindOf c)) {args : List Argument}
    {result : Except Failure (c.Yield g.Yield)} {block : Log} (hadmits : s.Admits)
    (hbody : g.run (levels + 1) c (s.entered args) = .finished result u)
    (hmessage : ∀ f, result = .error f → OneLine f.message)
    (hlog : u.log = s.log.map (block ++ ·)) (hnested : block.Nested (s.depth + 1))
    (hattempts : c.Attempts (s.entered args) block) :
    g.Closes (levels + 1) c args s result ((s.left u).noteOutcome s (g.kindOf c) result) block
      ((s.left u).outcome s (g.kindOf c) result) := by
  have hdepth : (s.left u).depth = s.depth := by
    have hframe := (g.calleesOnward _ c _ u levels _ rfl (hs.entered hadmits args) hbody).frame
    have hleave : u.guard.leave = s.guard := by
      rw [hframe.guard]
      exact hs.leave_deeper (Or.inr (Nat.succ_pos levels))
    exact congrArg Guard.depth hleave
  refine ⟨?_, hnested, (s.left u).oneLine_outcome s hkind hmessage,
    fun hrefused => absurd hadmits hrefused, fun _ => hattempts, ?_, ?_⟩
  · have hleft : (s.left u).log = s.log.map (block ++ ·) := hlog
    rw [noteOutcome_log, hdepth, hleft, Option.map_map]
    rfl
  · rintro f rfl
    rfl
  · rintro value rfl
    exact ⟨hadmits, u, hbody, rfl⟩

theorem invoke_closes (hcallees : g.CalleesNest room) (hkinds : ∀ r, OneLine (g.kind r))
    (hs : s.Fits room) {c : Callee g.Rule} {args : List Argument}
    {result : Except Failure (c.Yield g.Yield)}
    (htidy : s.Admits → g.Tidy room c (s.entered args))
    (h : s.invoke (g.kindOf c) (g.run room c) args = .finished result t) :
    ∃ block outcome, g.Closes room c args s result t block outcome := by
  have hmessage := invoke_oneLine (g.calleesFailTidily room) htidy h
  have hkind := oneLine_kindOf hkinds c
  rcases invoke_cases h with ⟨hrefused, -, -⟩ | ⟨hadmits, u, hbody, rfl⟩
  · exact ⟨_, _, closes_of_refused hs hkind hrefused h⟩
  · cases room with
    | zero => cases hbody
    | succ levels =>
      obtain ⟨block, hlog, hnested, hattempts⟩ :=
        hcallees c _ _ levels _ rfl (hs.entered hadmits args) (htidy hadmits) hbody
      rw [hs.entered_depth args] at hnested
      exact ⟨block, _, closes_of_body hs hkind hadmits hbody hmessage hlog hnested hattempts⟩

theorem Closes.nests {c : Callee g.Rule} {args : List Argument}
    {result : Except Failure (c.Yield g.Yield)} {block : Log} {outcome : String}
    (h : g.Closes room c args s result t block outcome) : s.Nests t := by
  refine ⟨⟨s.depth, outcome⟩ :: (block ++ []), ?_, .close (.nil _) h.nested h.oneLine⟩
  rw [h.log, List.append_nil]
  rfl

theorem call_closes (hcallees : g.CalleesNest room) (hkinds : ∀ r, OneLine (g.kind r))
    (hs : s.Fits room) {mode : Mode} {c : Callee g.Rule} {args : List Argument}
    {result : Except Failure (c.Yield g.Yield)}
    (htidy : s.Admits → g.Tidy room c (s.entered args))
    (h : s.call mode (g.kindOf c) (g.run room c) args = .finished result t) :
    ∃ block outcome, g.Closes room c args s result t block outcome := by
  obtain ⟨u, hinvoke, rfl⟩ := call_cases h
  obtain ⟨block, outcome, hcloses⟩ := invoke_closes hcallees hkinds hs htidy hinvoke
  exact ⟨block, outcome, { hcloses with log := (settle_log mode s u result).trans hcloses.log }⟩

theorem script_nests (hcallees : g.CalleesNest room) (hkinds : ∀ r, OneLine (g.kind r))
    (script : Script g.Yield α) {result : Except Failure α} (hs : s.Fits room)
    (htidy : script.Tidy g.kindOf (g.run room) (g.Tidy room) heard s)
    (h : script.run g.kindOf (g.run room) s = .finished result t) : s.Nests t := by
  induction script generalizing heard s with
  | done | raise =>
    cases h
    exact .refl _
  | call mode c args next ih =>
    obtain ⟨answer, u, hcall, hrun⟩ := Script.call_of_run h
    obtain ⟨block, outcome, hcloses⟩ := call_closes hcallees hkinds hs htidy.1 hcall
    -- the call is left at the depth on which it was made, so that its lines come to stand there
    have hframe := (call_onward (g.calleesOnward room) hs hcall).frame
    exact hcloses.nests.trans hframe.depth (ih _ (hframe.fits hs) (htidy.2 answer u hcall) hrun)
  | ask query next ih => exact ih _ hs htidy h
  | advance count next ih =>
    simp only [Script.run] at h
    split at h
    · next u hadvance =>
      have hframe := (onward_advance hadvance).frame
      obtain ⟨added, hlog, hnested⟩ := ih (hframe.fits hs) (htidy u hadvance) h
      rw [advance_log hadvance] at hlog
      rw [hframe.depth] at hnested
      exact ⟨added, hlog, hnested⟩
    · cases h
  | note message next ih =>
    have hframe := (s.onward_note message).frame
    exact (nests_of_line htidy.1 rfl).trans hframe.depth (ih (hframe.fits hs) htidy.2 h)
  | noteAttempt what next ih =>
    have hframe := (s.onward_noteAttempt what).frame
    have hline := nests_of_line (s.oneLine_attempt htidy.1) (s.noteAttempt_log what)
    exact hline.trans hframe.depth (ih (hframe.fits hs) htidy.2 h)
  | takeLog next ih => exact htidy.elim

theorem calleesNest (hkinds : ∀ r, OneLine (g.kind r)) (room : Nat) : g.CalleesNest room := by
  induction room with
  | zero =>
    intro c s t levels result hroom
    exact absurd hroom (by omega)
  | succ room ih =>
    intro c s t levels result hroom hs htidy h
    obtain rfl : levels = room := by omega
    cases c with
    | token token =>
      have hlog := (Token.run_log h).1
      exact ⟨_, hlog, (Log.Nested.nil _).line (s.oneLine_attempt token.oneLine_what), rfl⟩
    | rule r =>
      obtain ⟨added, hlog, hnested⟩ := script_nests ih hkinds (g.body r) hs htidy h
      exact ⟨added, hlog, hnested, trivial⟩

/-- What a reader of the log finds of an invocation that came to an end. -/
structure Recorded (g : Grammar) (room : Nat) (c : Callee g.Rule) (args : List Argument)
    (s : Scanner) (result : Except Failure (c.Yield g.Yield)) (t : Scanner) (block : Log)
    (outcome : String) : Prop extends g.Closes room c args s result t block outcome where
  text : t.log.map Log.chars = s.log.map fun log =>
    log.chars ++ ((block.reverse.map Line.text).flatMap (· ++ ['\n']) ++
      (List.replicate (2 * s.depth) ' ' ++ outcome.toList ++ ['\n']))
  indented : ∀ l ∈ block, List.replicate (2 * (s.depth + 1)) ' ' <+: l.text ∧ '\n' ∉ l.text
  consumed : ∀ value, result = .ok value → ∃ u before consumed,
    g.run room c (s.entered args) = .finished result u ∧
    s.buffer.toList = before ++ (consumed ++ u.rest) ∧
    s.location.offset = Text.width before ∧
    u.location.offset = Text.width (before ++ consumed) ∧
    outcome = "+ " ++ g.kindOf c ++ " " ++ Text.quotedList consumed

theorem Closes.recorded {c : Callee g.Rule} {args : List Argument}
    {result : Except Failure (c.Yield g.Yield)} {block : Log} {outcome : String}
    (h : g.Closes room c args s result t block outcome) (hs : s.Fits room) (hplaced : s.Placed) :
    g.Recorded room c args s result t block outcome := by
  refine { h with text := ?_, indented := ?_, consumed := ?_ }
  · rw [h.log, Option.map_map]
    congr 1
    funext log
    change Log.chars (⟨s.depth, outcome⟩ :: (block ++ log)) = _
    rw [Log.chars_cons, Log.chars_append, Log.chars_eq block, List.append_assoc]
    rfl
  · intro l hl
    obtain ⟨hdepth, hmessage⟩ := h.nested.deep l hl
    exact Line.indented hdepth hmessage
  · rintro value rfl
    obtain ⟨hadmits, u, hbody, houtcome⟩ := h.succeeded value rfl
    obtain ⟨before, hbuffer, hlocation⟩ := hplaced
    obtain ⟨consumed, hrest, hlocation'⟩ :
        ∃ consumed, s.rest = consumed ++ u.rest ∧ u.location = s.location.advance consumed := by
      cases room with
      | zero => cases hbody
      | succ levels =>
        exact (g.calleesOnward _ c _ u levels _ rfl (hs.entered hadmits args) hbody).passed
    have hoffset : s.location.offset = Text.width before := by
      rw [hlocation, Position.start_advance_offset]
    refine ⟨u, before, consumed, hbody, ?_, hoffset, ?_, ?_⟩
    · rw [hbuffer, hrest]
    · rw [hlocation', Position.advance_offset, hoffset, Text.width_append]
    · rw [houtcome, textSince_eq hrest]

end Grammar

end Descent
