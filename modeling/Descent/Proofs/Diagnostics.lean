import Descent.Proofs.Driving
import Descent.Proofs.Calculator.Agreement
import Descent.Proofs.Json.Agreement

/-!
Where failures point. A `Candid` script fails only at places that it was told since it began: by
the scanner, or with the failures and values of its callees. It may not make up a place, nor bring
one along, so that it is candid whatever set of places is known. A run begins with the places from
its start to the end of the text, and as it only moves onward, and goes back no further than to
where it was, it learns of no others; so all links of its failures are there (`script_tells`),
also those that come with the record of an attempt that was given up.
-/
namespace Descent

variable {known : Position → Prop} {α : Type}

/-- A result tells of known places only, where `keeps` says so of its value. -/
def ResultTells (known : Position → Prop) (keeps : α → Prop) : Except Failure α → Prop
  | .ok value => keeps value
  | .error f => f.Within known

/-- What a caller learns tells of known places only. -/
def Mode.Tells (known : Position → Prop) (keeps : α → Prop) : (mode : Mode) → mode.Answer α → Prop
  | parse, result => ResultTells known keeps result
  | peek, _ => True
  | skip, _ => True

def Query.Tells (known : Position → Prop) : (query : Query) → query.Answer → Prop
  | location, p => known p
  | lastFailure, record => ∀ f ∈ record, f.Within known
  | remaining, _ => True
  | buffer, _ => True
  | depth, _ => True
  | arguments, _ => True
  | logging, _ => True

section Candid

variable {ρ : Type} {Y : ρ → Type}

/-- The places that a value of a rule holds are known. Tokens yield texts, which hold none. -/
def Callee.Keeps (holds : (r : ρ) → Y r → Position → Prop) (known : Position → Prop) :
    (c : Callee ρ) → c.Yield Y → Prop
  | .token _, _ => True
  | .rule r, value => ∀ p, holds r value p → known p

/-- As long as it is told of known places, the script fails at known places, and `keeps` holds of
its value. -/
def Script.Candid (holds : (r : ρ) → Y r → Position → Prop) (known : Position → Prop)
    (keeps : α → Prop) : Script Y α → Prop
  | done value => keeps value
  | raise failure => failure.Within known
  | call mode callee _ next =>
    ∀ answer, mode.Tells known (callee.Keeps holds known) answer →
      (next answer).Candid holds known keeps
  | ask query next => ∀ answer, query.Tells known answer → (next answer).Candid holds known keeps
  | advance _ next => next.Candid holds known keeps
  | note _ next => next.Candid holds known keeps
  | noteAttempt _ next => next.Candid holds known keeps
  | takeLog next => ∀ answer, (next answer).Candid holds known keeps

end Candid

/-- The bodies of all rules are candid, whatever places are known. What places their values hold
is for the grammar to say, and they are told, too. -/
def Grammar.Candid (g : Grammar) (holds : (r : g.Rule) → g.Yield r → Position → Prop) : Prop :=
  ∀ known r, (g.body r).Candid holds known ((Callee.rule r).Keeps holds known)

namespace Failure

theorem within_ofReason {p : Position} (h : known p) (reason : Reason) :
    (ofReason p reason).Within known :=
  List.forall_mem_singleton.mpr h

theorem within_of_record {p : Position} {record : Option Failure} (h : known p) (message : String)
    (hrecord : ∀ f ∈ record, f.Within known) : (⟨p, message, record⟩ : Failure).Within known := by
  cases record with
  | none => exact List.forall_mem_singleton.mpr h
  | some cause => exact List.forall_mem_cons.mpr ⟨h, hrecord cause rfl⟩

end Failure

theorem Token.candid {ρ : Type} {Y : ρ → Type} (holds : (r : ρ) → Y r → Position → Prop)
    (t : Token) : (t.script : Script Y t.Yield).Candid holds known fun _ => True := by
  rw [script_eq]
  intro rest _
  change (settle (t.reading rest) : Script Y t.Yield).Candid holds known fun _ => True
  cases t.reading rest with
  | error reason => exact fun p hp => Failure.within_ofReason hp reason
  | ok read => trivial

namespace Scanner

variable {s t : Scanner}

/-- The places from here to the end of the text. -/
def Ahead (s : Scanner) (p : Position) : Prop :=
  ∃ front back, s.rest = front ++ back ∧ p = s.location.advance front

/-- The places that can be read off the scanner, now or later, are known. -/
structure Knows (known : Position → Prop) (s : Scanner) : Prop where
  ahead : ∀ p, s.Ahead p → known p
  record : ∀ f ∈ s.lastFailure, f.Within known

theorem ahead_location (s : Scanner) : s.Ahead s.location := ⟨[], s.rest, rfl, rfl⟩

theorem Onward.ahead {p : Position} (h : s.Onward t) (hp : t.Ahead p) : s.Ahead p := by
  obtain ⟨front, hrest, hloc⟩ := h.passed
  obtain ⟨front', back, hrest', rfl⟩ := hp
  refine ⟨front ++ front', back, ?_, ?_⟩
  · rw [hrest, hrest', List.append_assoc]
  · rw [hloc, Position.advance_append]

theorem Knows.logged (h : s.Knows known)
    (ht : ∃ log : Option Log, t = { s with log := log } ∧ log.isSome = s.log.isSome) :
    t.Knows known := by
  obtain ⟨log, rfl, -⟩ := ht
  exact ⟨h.ahead, h.record⟩

theorem Knows.advance {count : Nat} (h : s.Knows known) (hadvance : s.advance count = .ok t) :
    t.Knows known := by
  obtain ⟨front, -, -, heq⟩ := (s.advance_eq_ok_iff t count).mp hadvance
  refine ⟨fun p hp => h.ahead p ((onward_advance hadvance).ahead hp), ?_⟩
  rw [heq]
  exact h.record

theorem Knows.answer (h : s.Knows known) (query : Query) :
    query.Tells known (query.answer s) := by
  cases query with
  | location => exact h.ahead _ s.ahead_location
  | lastFailure => exact h.record
  | remaining | buffer | depth | arguments | logging => trivial

/-- Behind a call, the place is one of two that were known, and so is what is on record. -/
theorem Knows.settle (mode : Mode) {keeps : α → Prop} {result : Except Failure α}
    (h : s.Knows known) (hafter : t.Knows known) (hresult : ResultTells known keeps result) :
    (mode.settle s result t).Knows known := by
  cases mode with
  | parse =>
    cases result with
    | ok value => exact ⟨hafter.ahead, fun f hf => nomatch hf⟩
    | error f =>
      refine ⟨h.ahead, fun f' hf => ?_⟩
      cases hf
      exact hresult
  | peek => exact ⟨h.ahead, hafter.record⟩
  | skip =>
    cases result with
    | ok value => exact hafter
    | error f => exact ⟨h.ahead, hafter.record⟩

end Scanner

theorem ResultTells.answer {keeps : α → Prop} {result : Except Failure α}
    (h : ResultTells known keeps result) (mode : Mode) :
    mode.Tells known keeps (mode.answer result) := by
  cases mode with
  | parse => exact h
  | peek | skip => trivial

namespace Grammar

open Scanner

variable {g : Grammar} {holds : (r : g.Rule) → g.Yield r → Position → Prop} {room : Nat}
  {s t : Scanner}

def CalleesTell (holds : (r : g.Rule) → g.Yield r → Position → Prop) (known : Position → Prop)
    (room : Nat) : Prop :=
  ∀ (c : Callee g.Rule) (s t : Scanner) (result : Except Failure (c.Yield g.Yield)),
    s.Knows known → g.run room c s = .finished result t →
    ResultTells known (c.Keeps holds known) result ∧ t.Knows known

theorem Candid.script (hg : g.Candid holds) (c : Callee g.Rule) :
    (g.script c).Candid holds known (c.Keeps holds known) := by
  cases c with
  | token t => exact Token.candid holds t
  | rule r => exact hg known r

/-- The body does not see what the caller has on record, and the caller finds it as it was. -/
theorem invoke_tells (hcallees : CalleesTell holds known room) {c : Callee g.Rule}
    {args : List Argument} {result : Except Failure (c.Yield g.Yield)}
    (hahead : ∀ p, s.Ahead p → known p)
    (h : s.invoke (g.kindOf c) (g.run room c) args = .finished result t) :
    ResultTells known (c.Keeps holds known) result ∧ (∀ p, t.Ahead p → known p) ∧
      t.lastFailure = s.lastFailure := by
  rcases invoke_cases h with ⟨-, rfl, rfl⟩ | ⟨-, u, hbody, rfl⟩
  · obtain ⟨log, hnote, -⟩ := exists_noteOutcome
      ({ s with guard := s.guard.deeper.leave } : Scanner) s (g.kindOf c)
      (.error (.ofReason s.location (.tooDeep s.guard.deeper.depth s.limits.maxDepth)) :
        Except Failure (c.Yield g.Yield))
    rw [hnote]
    exact ⟨Failure.within_ofReason (hahead _ s.ahead_location) _, hahead, rfl⟩
  · have hentered : (s.entered args).Knows known := ⟨hahead, fun f hf => nomatch hf⟩
    obtain ⟨hresult, hbehind⟩ := hcallees c _ _ _ hentered hbody
    obtain ⟨log, hnote, -⟩ := (s.left u).exists_noteOutcome s (g.kindOf c) result
    rw [hnote]
    exact ⟨hresult, hbehind.ahead, rfl⟩

theorem call_tells (hcallees : CalleesTell holds known room) {mode : Mode} {c : Callee g.Rule}
    {args : List Argument} {result : Except Failure (c.Yield g.Yield)} (hs : s.Knows known)
    (h : s.call mode (g.kindOf c) (g.run room c) args = .finished result t) :
    ResultTells known (c.Keeps holds known) result ∧ t.Knows known := by
  obtain ⟨u, hinvoke, rfl⟩ := call_cases h
  obtain ⟨hresult, hahead, hrecord⟩ := invoke_tells hcallees hs.ahead hinvoke
  refine ⟨hresult, hs.settle mode ⟨hahead, ?_⟩ hresult⟩
  rw [hrecord]
  exact hs.record

theorem script_tells (hcallees : CalleesTell holds known room) {keeps : α → Prop}
    (script : Script g.Yield α) (hscript : script.Candid holds known keeps)
    {result : Except Failure α} (hs : s.Knows known)
    (h : script.run g.kindOf (g.run room) s = .finished result t) :
    ResultTells known keeps result ∧ t.Knows known := by
  induction script generalizing s with
  | done value =>
    cases h
    exact ⟨hscript, hs⟩
  | raise failure =>
    cases h
    exact ⟨hscript, hs⟩
  | call mode c args next ih =>
    obtain ⟨answer, u, hcall, hnext⟩ := Script.call_of_run h
    obtain ⟨hanswer, hbehind⟩ := call_tells hcallees hs hcall
    exact ih _ (hscript _ (hanswer.answer mode)) hbehind hnext
  | ask query next ih => exact ih _ (hscript _ (hs.answer query)) hs h
  | advance count next ih =>
    simp only [Script.run] at h
    split at h
    · next u hadvance => exact ih hscript (hs.advance hadvance) h
    · cases h
  | note message next ih => exact ih hscript (hs.logged (s.exists_note message)) h
  | noteAttempt what next ih => exact ih hscript (hs.logged (s.exists_noteAttempt what)) h
  | takeLog next ih => exact ih _ (hscript _) (hs.logged ⟨_, rfl, by simp⟩) h

theorem Candid.calleesTell (hg : g.Candid holds) (room : Nat) :
    CalleesTell holds known room := by
  induction room with
  | zero =>
    intro c s t result hs h
    cases h
  | succ room ih =>
    intro c s t result hs h
    exact script_tells ih (g.script c) (hg.script c) hs h

end Grammar

/-- A place of a text: a border of characters in it, with lines and columns as the text before it
has them. -/
structure Position.In (text : String) (p : Position) : Prop where
  offset_le : p.offset ≤ Text.width text.toList
  border : String.Pos.Raw.IsValid text ⟨p.offset⟩
  counted : ∃ front back, Text.split p.offset text.toList = some (front, back) ∧
    p = start.advance front

/-- The places ahead of a scanner are places of its text, none before the scanner. -/
theorem Scanner.Placed.in_of_ahead {s : Scanner} {p : Position} (h : s.Placed) (hp : s.Ahead p) :
    s.location.offset ≤ p.offset ∧ p.In s.buffer := by
  obtain ⟨before, hbuffer, hlocation⟩ := h
  obtain ⟨front, back, hrest, rfl⟩ := hp
  have htext : s.buffer.toList = (before ++ front) ++ back := by
    rw [hbuffer, hrest, List.append_assoc]
  have hplace : s.location.advance front = Position.start.advance (before ++ front) := by
    rw [hlocation, Position.advance_append]
  have hoffset : (s.location.advance front).offset = Text.width (before ++ front) := by
    rw [hplace, Position.start_advance_offset]
  refine ⟨?_, ?_, ?_, before ++ front, back, ?_, hplace⟩
  · rw [Position.advance_offset]
    exact Nat.le_add_right _ _
  · rw [hoffset, htext, Text.width_append (before ++ front)]
    exact Nat.le_add_right _ _
  · rw [hoffset]
    exact Text.isValid_width htext
  · exact (Text.split_eq_some_iff _ _ _ _).mpr ⟨htext, hoffset.symm⟩

section Diagonal

theorem Mode.Tells.answersMatch {mode : Mode} {keeps : α → Prop} {answer : mode.Answer α}
    (h : mode.Tells known keeps answer) :
    mode.AnswersMatch (Correspondence.diagonal known True).place answer answer := by
  cases mode with
  | parse =>
    cases answer with
    | ok value => exact .ok value
    | error f => exact .error (Failure.Within.matches f h)
  | peek | skip => rfl

theorem Query.Tells.answersMatch {query : Query} {answer : query.Answer}
    (h : query.Tells known answer) : query.AnswersMatch (.diagonal known True) answer answer := by
  cases query with
  | location => exact ⟨rfl, h⟩
  | lastFailure => exact Failure.Within.record_matches h
  | logging => exact fun _ => rfl
  | remaining | buffer | depth | arguments => rfl

/-- A script that does the same on the same places knows no other. -/
theorem Script.Agrees.candid {ρ : Type} {Y : ρ → Type}
    {holds : (r : ρ) → Y r → Position → Prop} {keeps : α → Prop} (hkeeps : ∀ value, keeps value)
    {script script' : Script Y α} (h : script.Agrees (.diagonal known True) script') :
    script.Candid holds known keeps := by
  induction h with
  | done value => exact hkeeps value
  | raise h => exact h.eq_and_within.2
  | call h ih => exact fun answer hanswer => ih answer answer hanswer.answersMatch
  | ask h ih => exact fun answer hanswer => ih answer answer hanswer.answersMatch
  | advance h ih => exact ih
  | note message message' h ih => exact ih
  | noteAttempt what what' h ih => exact ih
  | takeLog h ih => exact fun answer => ih answer answer fun _ => rfl

theorem Calculator.grammar_candid : Calculator.grammar.Candid fun _ _ _ => False :=
  fun _ r => (Calculator.body_agrees r).candid fun _ _ hp => hp.elim

theorem Json.grammar_candid : Json.grammar.Candid fun _ _ _ => False :=
  fun _ r => (Json.body_agrees r).candid fun _ _ hp => hp.elim

end Diagonal

theorem Scanner.Fresh.knows {first : Scanner} (h : first.Fresh) :
    first.Knows (Position.In first.buffer) := by
  refine ⟨fun p hp => (h.placed.in_of_ahead hp).2, fun f hf => ?_⟩
  obtain ⟨text, limits, rfl | rfl⟩ := h <;> cases hf

namespace Grammar

open Scanner

variable {g : Grammar} {holds : (r : g.Rule) → g.Yield r → Position → Prop}

theorem Candid.start_tells (hg : g.Candid holds) {first t : Scanner} (hfirst : first.Fresh)
    {c : Callee g.Rule} {result : Except Failure (c.Yield g.Yield)}
    (h : g.start c first = .finished result t) :
    ResultTells (Position.In first.buffer) (c.Keeps holds (Position.In first.buffer)) result ∧
      t.Knows (Position.In first.buffer) :=
  script_tells (hg.calleesTell _) (g.script c) (hg.script c) hfirst.knows h

theorem Candid.start_within (hg : g.Candid holds) {first : Scanner} (hfirst : first.Fresh)
    {c : Callee g.Rule} {f : Failure} (h : (g.start c first).toExcept = .error (.failure f)) :
    f.Within (Position.In first.buffer) := by
  cases hrun : g.start c first with
  | finished result t =>
    rw [hrun] at h
    cases result with
    | ok value => cases h
    | error f' =>
      cases h
      exact (hg.start_tells hfirst hrun).1
  | violated violation t =>
    rw [hrun] at h
    cases h
  | exhausted =>
    rw [hrun] at h
    cases h

theorem Candid.parseWithin_within (hg : g.Candid holds) {c : Callee g.Rule} {text : String}
    {limits : Limits} {f : Failure} (h : g.parseWithin c text limits = .error (.failure f)) :
    f.Within (Position.In text) := by
  have hfresh : (Scanner.ofString text limits).Fresh := ⟨text, limits, Or.inl rfl⟩
  have hends : ∀ result t, g.start c (.ofString text limits) = .finished result t →
      ResultTells (Position.In text) (c.Keeps holds (Position.In text)) result ∧
        t.Knows (Position.In text) := fun _ _ => hg.start_tells hfresh
  have hcompletes := g.parseWithin_completes c text limits
  rw [h] at hcompletes
  generalize g.start c (.ofString text limits) = o at hends hcompletes
  cases hcompletes with
  | failed f t => exact (hends _ t rfl).1
  | leftOver value t hrest =>
    have hknows := (hends _ t rfl).2
    exact Failure.within_of_record (hknows.ahead _ t.ahead_location) _ hknows.record

end Grammar

/-- The law of failures, for every candid grammar: all links of a failure lie between the place
where the call began and the end of the text, at places of the text. -/
theorem failures_point_into_construct (g : Grammar)
    {holds : (r : g.Rule) → g.Yield r → Position → Prop} (hg : g.Candid holds) :
    -- calls in the middle of a text
    (∀ {first s : Scanner} {room : Nat}, first.Fresh → g.Reachable first room s →
      ∀ (mode : Mode) (c : Callee g.Rule) (args : List Argument) (f : Failure) (t : Scanner),
        s.call mode (g.kindOf c) (g.run room c) args = .finished (.error f) t →
        ∀ link ∈ f.chain, s.location.offset ≤ link.location.offset ∧
          link.location.In s.buffer) ∧
    -- parses of texts
    (∀ (c : Callee g.Rule) (text : String) (limits : Limits) (sink : Sink) (f : Failure),
      (g.parseSome c text = .error (.failure f) ∨
        g.parseWithin c text limits = .error (.failure f) ∨
        (g.parseLogged c text sink).1 = .error (.failure f)) →
      ∀ link ∈ f.chain, link.location.In text) ∧
    -- the calculator and the data format
    (∀ (text : String) (f : Failure),
      Calculator.evaluate text = .error (.fault (.failure f)) →
      ∀ link ∈ f.chain, link.location.In text) ∧
    ∀ (text : String) (f : Failure),
      Json.parseText text = .error (.fault (.failure f)) →
      ∀ link ∈ f.chain, link.location.In text := by
  refine ⟨?_, ?_, ?_, ?_⟩
  · intro first s room hfirst hs mode c args f t hcall
    obtain ⟨u, hinvoke, -⟩ := Scanner.call_cases hcall
    have hwithin : f.Within s.Ahead :=
      (Grammar.invoke_tells (hg.calleesTell room) (fun p hp => hp) hinvoke).1
    exact fun link hlink => (hs.placed hfirst).in_of_ahead (hwithin link hlink)
  · rintro c text limits sink f (h | h | h)
    · exact hg.start_within ⟨text, {}, Or.inl rfl⟩ h
    · exact hg.parseWithin_within h
    · rw [Grammar.parseLogged_fst] at h
      exact hg.start_within ⟨text, {}, Or.inr rfl⟩ h
  · intro text f h
    unfold Calculator.evaluate at h
    split at h
    · cases h
    · obtain ⟨e, hparse, he⟩ := mapError_eq_error h
      cases he
      exact Calculator.grammar_candid.parseWithin_within hparse
  · intro text f h
    unfold Json.parseText at h
    split at h
    · cases h
    · obtain ⟨e, hparse, he⟩ := mapError_eq_error h
      cases he
      exact Json.grammar_candid.parseWithin_within hparse

/-- A rule that goes back behind an attempt and fails where it began: its own link is at the start
of the call, and the cause stands where the attempt was given up, on the line below. -/
theorem failures_point_into_construct_behind_attempt :
    let pair : Script (fun _ : Bool => Unit) Unit := do
      let _ ← Script.parse (.token (.literal "a\n"))
      let _ ← Script.parse (.token (.literal "b"))
    let whole : Script (fun _ : Bool => Unit) Unit := do
      let start ← Script.get .location
      Script.skip (.token (.literal "é"))
      match ← Script.attempt (.rule false) [] with
      | .ok _ => return ()
      | .error _ => Script.failAt start "no pair"
    let g : Grammar := ⟨Bool, fun _ => Unit, fun _ => "()", fun r => if r then whole else pair⟩
    let first := (Scanner.ofString "\néa\nc" {}).withLog
    let s : Scanner := { first with rest := "éa\nc".toList, location := ⟨1, 2, 0⟩ }
    let c : Callee g.Rule := .rule true
    let f : Failure :=
      ⟨⟨1, 2, 0⟩, "no pair", some (.ofReason ⟨5, 3, 0⟩ (.literalMismatch "b"))⟩
    g.Candid (fun _ _ _ => False) ∧ first.Fresh ∧ g.Reachable first 513 s ∧
      (∃ t, s.call .parse (g.kindOf c) (g.run 513 c) [] = .finished (.error f) t) ∧
      ∀ link ∈ f.chain, 1 ≤ link.location.offset ∧ link.location.In "\néa\nc" := by
  intro pair whole g first s c f
  have hg : g.Candid fun _ _ _ => False := by
    intro known r
    cases r with
    | false =>
      intro a ha
      cases a with
      | error => exact ha
      | ok =>
        intro b hb
        cases b with
        | error => exact hb
        | ok => exact fun p hp => hp.elim
    | true =>
      intro start hstart _ _ result hresult
      cases result with
      | ok => exact fun p hp => hp.elim
      | error => exact fun record hrecord => Failure.within_of_record hstart "no pair" hrecord
  have hfirst : first.Fresh := ⟨"\néa\nc", {}, Or.inr rfl⟩
  have hmove : (Script.move 1 : Script g.Yield Unit).run g.kindOf (g.run 513) first =
      .finished (.ok ()) s := rfl
  have hs : g.Reachable first 513 s := .run .start (Script.move 1) hmove
  obtain ⟨t, hcall⟩ :
      ∃ t, s.call .parse (g.kindOf c) (g.run 513 c) [] = .finished (.error f) t := ⟨_, rfl⟩
  obtain ⟨hcalls, -⟩ := failures_point_into_construct g hg
  exact ⟨hg, hfirst, hs, ⟨t, hcall⟩, hcalls hfirst hs .parse c [] f t hcall⟩

end Descent
