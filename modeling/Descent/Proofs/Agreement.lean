import Descent.Proofs.Reading

/-!
Two runs side by side. They may be told different places, or have different texts around the one
that is left, and a script may pass on what it is told of places without looking at it. A
`Correspondence` says which places and texts count as the same. Two scripts agree if they do the
same operations whenever their answers correspond, and end with equal values or with failures that
match link by link. If the bodies of a grammar agree with themselves, runs of scripts that agree,
on scanners that match, end alike (`run_matches`). Where only what is equal counts as the same,
and of places only known ones, to match is to be equal, with known places only (`eq_and_within`).
-/
namespace Descent

structure Correspondence where
  place : Position → Position → Prop
  buffer : String → String → Prop
  watched : Prop

/-- Failures of equal messages at corresponding places, link by link. -/
inductive Failure.Matches (place : Position → Position → Prop) : Failure → Failure → Prop
  | single {p q : Position} (message : String) (h : place p q) :
      Matches place ⟨p, message, none⟩ ⟨q, message, none⟩
  | caused {p q : Position} (message : String) {f g : Failure} (h : place p q)
      (hcause : Matches place f g) : Matches place ⟨p, message, some f⟩ ⟨q, message, some g⟩

inductive ResultsMatch (place : Position → Position → Prop) {α : Type} :
    Except Failure α → Except Failure α → Prop
  | ok (value : α) : ResultsMatch place (.ok value) (.ok value)
  | error {f g : Failure} (h : f.Matches place g) : ResultsMatch place (.error f) (.error g)

def Mode.AnswersMatch (place : Position → Position → Prop) {α : Type} :
    (mode : Mode) → mode.Answer α → mode.Answer α → Prop
  | parse => ResultsMatch place
  | peek => Eq
  | skip => Eq

/-- Answers that correspond. A script may be told of logs what it likes, unless they are watched.
-/
def Query.AnswersMatch (k : Correspondence) : (query : Query) → query.Answer → query.Answer → Prop
  | location => k.place
  | buffer => k.buffer
  | lastFailure => Option.Rel (Failure.Matches k.place)
  | logging => fun a b => k.watched → a = b
  | remaining => Eq
  | depth => Eq
  | arguments => Eq

/-- Scripts that do the same on corresponding answers. What they log may differ. -/
inductive Script.Agrees {ρ : Type} {Y : ρ → Type} (k : Correspondence) {α : Type} :
    Script Y α → Script Y α → Prop
  | done (value : α) : Agrees k (.done value) (.done value)
  | raise {f g : Failure} (h : f.Matches k.place g) : Agrees k (.raise f) (.raise g)
  | call {mode : Mode} {callee : Callee ρ} {args : List Argument}
      {next next' : mode.Answer (callee.Yield Y) → Script Y α}
      (h : ∀ a b, mode.AnswersMatch k.place a b → Agrees k (next a) (next' b)) :
      Agrees k (.call mode callee args next) (.call mode callee args next')
  | ask {query : Query} {next next' : query.Answer → Script Y α}
      (h : ∀ a b, query.AnswersMatch k a b → Agrees k (next a) (next' b)) :
      Agrees k (.ask query next) (.ask query next')
  | advance {count : Nat} {next next' : Script Y α} (h : Agrees k next next') :
      Agrees k (.advance count next) (.advance count next')
  | note (message message' : String) {next next' : Script Y α} (h : Agrees k next next') :
      Agrees k (.note message next) (.note message' next')
  | noteAttempt (what what' : String) {next next' : Script Y α} (h : Agrees k next next') :
      Agrees k (.noteAttempt what next) (.noteAttempt what' next')
  | takeLog {next next' : Option String → Script Y α}
      (h : ∀ a b, (k.watched → a.isSome = b.isSome) → Agrees k (next a) (next' b)) :
      Agrees k (.takeLog next) (.takeLog next')

variable {place : Position → Position → Prop} {k : Correspondence}

namespace Failure

theorem Matches.ofReason {p q : Position} (h : place p q) (reason : Reason) :
    (Failure.ofReason p reason).Matches place (.ofReason q reason) := .single _ h

theorem Matches.of_record {p q : Position} {cause cause' : Option Failure} (h : place p q)
    (message : String) (hcause : Option.Rel (Matches place) cause cause') :
    Matches place ⟨p, message, cause⟩ ⟨q, message, cause'⟩ := by
  cases hcause with
  | none => exact .single message h
  | some hcause => exact .caused message h hcause

/-- Chains that match have equal messages, and so as many links. -/
theorem Matches.messages {f g : Failure} (h : f.Matches place g) :
    f.chain.map (·.message) = g.chain.map (·.message) := by
  induction h with
  | single message h => rfl
  | caused message h hcause ih => simp only [chain, List.map_cons, ih]

theorem Matches.places {f g : Failure} (h : f.Matches place g) :
    ∀ pair ∈ f.chain.zip g.chain, place pair.1.location pair.2.location := by
  induction h with
  | single message h => simpa [chain] using h
  | caused message h hcause ih =>
    simp only [chain, List.zip_cons_cons, List.forall_mem_cons]
    exact ⟨h, ih⟩

end Failure

theorem ResultsMatch.answer {α : Type} {result result' : Except Failure α}
    (h : ResultsMatch place result result') (mode : Mode) :
    mode.AnswersMatch place (mode.answer result) (mode.answer result') := by
  cases mode with
  | parse => exact h
  | peek => cases h <;> rfl
  | skip => cases h <;> rfl

namespace Script

variable {ρ : Type} {Y : ρ → Type} {α β : Type}

theorem Agrees.bind {s s' : Script Y α} {f f' : α → Script Y β} (h : s.Agrees k s')
    (hf : ∀ value, (f value).Agrees k (f' value)) : (s.bind f).Agrees k (s'.bind f') := by
  induction h with
  | done value => exact hf value
  | raise h => exact .raise h
  | call h ih => exact .call fun a b hab => ih a b hab
  | ask h ih => exact .ask fun a b hab => ih a b hab
  | advance h ih => exact .advance ih
  | note message message' h ih => exact .note message message' ih
  | noteAttempt what what' h ih => exact .noteAttempt what what' ih
  | takeLog h ih => exact .takeLog fun a b hab => ih a b hab

theorem agrees_parse (callee : Callee ρ) :
    (parse callee : Script Y (callee.Yield Y)).Agrees k (parse callee) := by
  refine .call fun a b hab => ?_
  cases hab with
  | ok value => exact .done value
  | error h => exact .raise h

theorem agrees_succeeds (callee : Callee ρ) :
    (succeeds callee : Script Y Bool).Agrees k (succeeds callee) := by
  refine .call fun a b hab => ?_
  cases hab with
  | ok value => exact .done true
  | error h => exact .done false

theorem agrees_sees (callee : Callee ρ) :
    (sees callee : Script Y Bool).Agrees k (sees callee) := by
  refine .call fun a b hab => ?_
  cases hab
  exact .done a

theorem agrees_skip (callee : Callee ρ) :
    (skip callee : Script Y Unit).Agrees k (skip callee) := .call fun _ _ _ => .done ()

theorem agrees_attempt {callee : Callee ρ} {args : List Argument}
    {f f' : Except Failure (callee.Yield Y) → Script Y α}
    (h : ∀ a b, ResultsMatch k.place a b → (f a).Agrees k (f' b)) :
    (attempt callee args >>= f).Agrees k (attempt callee args >>= f') := .call h

theorem agrees_get {query : Query} {f f' : query.Answer → Script Y α}
    (h : ∀ a b, query.AnswersMatch k a b → (f a).Agrees k (f' b)) :
    (get query >>= f).Agrees k (get query >>= f') := .ask h

theorem agrees_failAt {p q : Position} (h : k.place p q) (message : String) :
    (failAt p message : Script Y α).Agrees k (failAt q message) :=
  .ask fun _ _ hcause => .raise (.of_record h message hcause)

theorem agrees_fail (message : String) :
    (fail message : Script Y α).Agrees k (fail message) :=
  .ask fun _ _ h => agrees_failAt h message

theorem agrees_refuse (reason : Reason) :
    (refuse reason : Script Y α).Agrees k (refuse reason) :=
  .ask fun _ _ h => .raise (.ofReason h reason)

theorem agrees_token (t : Token) :
    (t.script : Script Y t.Yield).Agrees k t.script := by
  rw [Token.script_eq]
  refine .noteAttempt _ _ (.ask fun a b hab => ?_)
  obtain rfl : a = b := hab
  cases t.reading a with
  | error reason => exact agrees_refuse reason
  | ok read => exact .advance (.done read.2)

end Script

/-- Scanners in two runs: the same text is left, and the places in it correspond. -/
structure Scanner.Matches (k : Correspondence) (s t : Scanner) : Prop where
  buffer : k.buffer s.buffer t.buffer
  rest : s.rest = t.rest
  ahead : ∀ front back, s.rest = front ++ back →
    k.place (s.location.advance front) (t.location.advance front)
  guard : s.guard = t.guard
  maxDepth : s.limits.maxDepth = t.limits.maxDepth
  arguments : s.arguments = t.arguments
  lastFailure : Option.Rel (Failure.Matches k.place) s.lastFailure t.lastFailure
  logging : k.watched → s.isLogging = t.isLogging

inductive Violation.Matches (k : Correspondence) : Violation → Violation → Prop
  | pastEnd {p q : Position} {text text' : String} (count : Nat) (h : k.place p q)
      (hbuffer : k.buffer text text') :
      Matches k (.pastEnd (p.offset + count) (Text.width text.toList))
        (.pastEnd (q.offset + count) (Text.width text'.toList))
  | insideCharacter {p q : Position} (count : Nat) (h : k.place p q) :
      Matches k (.insideCharacter (p.offset + count)) (.insideCharacter (q.offset + count))

inductive Outcome.Matches (k : Correspondence) {α : Type} : Outcome α → Outcome α → Prop
  | finished {result result' : Except Failure α} {s t : Scanner}
      (hresult : ResultsMatch k.place result result') (h : s.Matches k t) :
      Matches k (.finished result s) (.finished result' t)
  | violated {violation violation' : Violation} {s t : Scanner}
      (hviolation : violation.Matches k violation') (h : s.Matches k t) :
      Matches k (.violated violation s) (.violated violation' t)
  | exhausted : Matches k .exhausted .exhausted

namespace Scanner

variable {s t u v : Scanner} {α : Type}

theorem Matches.places_match (h : s.Matches k t) : k.place s.location t.location :=
  h.ahead [] s.rest rfl

/-- Logging, in either run, changes nothing else. -/
theorem Matches.logged (h : s.Matches k t)
    (hs : ∃ log : Option Log, u = { s with log := log } ∧ log.isSome = s.log.isSome)
    (ht : ∃ log : Option Log, v = { t with log := log } ∧ log.isSome = t.log.isSome) :
    u.Matches k v := by
  obtain ⟨log, rfl, hlog⟩ := hs
  obtain ⟨log', rfl, hlog'⟩ := ht
  exact ⟨h.buffer, h.rest, h.ahead, h.guard, h.maxDepth, h.arguments, h.lastFailure,
    fun hw => hlog.trans ((h.logging hw).trans hlog'.symm)⟩

theorem Matches.entered (h : s.Matches k t) (args : List Argument) :
    (s.entered args).Matches k (t.entered args) :=
  ⟨h.buffer, h.rest, h.ahead, congrArg Guard.deeper h.guard, h.maxDepth, rfl, .none, h.logging⟩

theorem Matches.left (h : s.Matches k t) (hinner : u.Matches k v) :
    (s.left u).Matches k (t.left v) :=
  ⟨hinner.buffer, hinner.rest, hinner.ahead, congrArg Guard.leave hinner.guard,
    hinner.maxDepth, h.arguments, h.lastFailure, hinner.logging⟩

theorem Matches.returnTo (h : s.Matches k t) (hafter : u.Matches k v) :
    (u.returnTo s).Matches k (v.returnTo t) :=
  ⟨hafter.buffer, h.rest, h.ahead, hafter.guard, hafter.maxDepth, hafter.arguments,
    hafter.lastFailure, hafter.logging⟩

theorem Matches.withRecord (h : s.Matches k t) {record record' : Option Failure}
    (hrecord : Option.Rel (Failure.Matches k.place) record record') :
    ({ s with lastFailure := record } : Scanner).Matches k { t with lastFailure := record' } :=
  ⟨h.buffer, h.rest, h.ahead, h.guard, h.maxDepth, h.arguments, hrecord, h.logging⟩

theorem Matches.admits_iff (h : s.Matches k t) : s.Admits ↔ t.Admits := by
  unfold Admits
  rw [h.guard, h.maxDepth]

theorem Matches.settle (mode : Mode) {result result' : Except Failure α}
    (hresult : ResultsMatch k.place result result') (h : s.Matches k t) (hafter : u.Matches k v) :
    (mode.settle s result u).Matches k (mode.settle t result' v) := by
  cases mode with
  | parse =>
    cases hresult with
    | ok => exact hafter.withRecord .none
    | error hfailure => exact (h.returnTo hafter).withRecord (.some hfailure)
  | peek => exact h.returnTo hafter
  | skip =>
    cases hresult with
    | ok => exact hafter
    | error => exact h.returnTo hafter

theorem Matches.advance (h : s.Matches k t) (count : Nat) :
    (∃ u v, s.advance count = .ok u ∧ t.advance count = .ok v ∧ u.Matches k v) ∨
      ∃ violation violation', s.advance count = .error violation ∧
        t.advance count = .error violation' ∧ violation.Matches k violation' := by
  unfold Scanner.advance Scanner.length
  rw [← h.rest]
  split
  · next front back hsplit =>
    obtain ⟨hrest, -⟩ := (Text.split_eq_some_iff _ _ _ _).mp hsplit
    refine Or.inl ⟨_, _, rfl, rfl, h.buffer, rfl, ?_, h.guard, h.maxDepth, h.arguments,
      h.lastFailure, h.logging⟩
    intro front' back' hback
    have hfront : s.rest = (front ++ front') ++ back' := by
      rw [hrest, List.append_assoc]
      exact congrArg _ hback
    have hplace := h.ahead _ _ hfront
    rw [Position.advance_append, Position.advance_append] at hplace
    exact hplace
  · split
    · exact Or.inr ⟨_, _, rfl, rfl, .insideCharacter count h.places_match⟩
    · exact Or.inr ⟨_, _, rfl, rfl, .pastEnd count h.places_match h.buffer⟩

theorem Matches.answer (h : s.Matches k t) (query : Query) :
    query.AnswersMatch k (query.answer s) (query.answer t) := by
  cases query with
  | location => exact h.places_match
  | remaining => exact h.rest
  | buffer => exact h.buffer
  | depth => exact congrArg Guard.depth h.guard
  | arguments => exact h.arguments
  | lastFailure => exact h.lastFailure
  | logging => exact h.logging

theorem Matches.invoke (h : s.Matches k t) (kind : String) {body : Scanner → Outcome α}
    (args : List Argument)
    (hbody : (body (s.entered args)).Matches k (body (t.entered args))) :
    (s.invoke kind body args).Matches k (t.invoke kind body args) := by
  by_cases hadmits : s.Admits
  · rw [invoke_of_admits hadmits, invoke_of_admits (h.admits_iff.mp hadmits)]
    generalize body (s.entered args) = o at hbody
    generalize body (t.entered args) = o' at hbody
    cases hbody with
    | finished hresult hinner =>
      exact .finished hresult
        ((h.left hinner).logged (exists_noteOutcome _ s kind _) (exists_noteOutcome _ t kind _))
    | violated hviolation hinner => exact .violated hviolation hinner
    | exhausted => exact .exhausted
  · rw [invoke_of_not_admits hadmits, invoke_of_not_admits (mt h.admits_iff.mpr hadmits),
      ← h.guard, ← h.maxDepth]
    have hleft : ({ s with guard := s.guard.deeper.leave } : Scanner).Matches k
        { t with guard := s.guard.deeper.leave } :=
      ⟨h.buffer, h.rest, h.ahead, rfl, h.maxDepth, h.arguments, h.lastFailure, h.logging⟩
    exact .finished (.error (.ofReason h.places_match _))
      (hleft.logged (exists_noteOutcome _ s kind _) (exists_noteOutcome _ t kind _))

theorem Matches.call (h : s.Matches k t) (mode : Mode) (kind : String)
    {body : Scanner → Outcome α} (args : List Argument)
    (hbody : (body (s.entered args)).Matches k (body (t.entered args))) :
    (s.call mode kind body args).Matches k (t.call mode kind body args) := by
  have hinvoke := h.invoke kind args hbody
  unfold Scanner.call
  generalize s.invoke kind body args = o at hinvoke
  generalize t.invoke kind body args = o' at hinvoke
  cases hinvoke with
  | finished hresult hinner => exact .finished hresult (h.settle mode hresult hinner)
  | violated hviolation hinner => exact .violated hviolation hinner
  | exhausted => exact .exhausted

end Scanner

def Grammar.Agrees (k : Correspondence) (g : Grammar) : Prop :=
  ∀ r, (g.body r).Agrees k (g.body r)

namespace Grammar

variable {g : Grammar}

theorem Agrees.script (hg : g.Agrees k) (c : Callee g.Rule) :
    (g.script c).Agrees k (g.script c) := by
  cases c with
  | token t => exact Script.agrees_token t
  | rule r => exact hg r

theorem script_matches {room : Nat}
    (hcallees : ∀ (c : Callee g.Rule) (s t : Scanner), s.Matches k t →
      (g.run room c s).Matches k (g.run room c t))
    {α : Type} {script script' : Script g.Yield α} (hscript : script.Agrees k script')
    {s t : Scanner} (h : s.Matches k t) :
    (script.run g.kindOf (g.run room) s).Matches k (script'.run g.kindOf (g.run room) t) := by
  induction hscript generalizing s t with
  | done value => exact .finished (.ok value) h
  | raise hfailure => exact .finished (.error hfailure) h
  | @call mode c args next next' hnext ih =>
    have hcall := h.call mode (g.kindOf c) args (hcallees c _ _ (h.entered args))
    simp only [Script.run]
    generalize s.call mode (g.kindOf c) (g.run room c) args = o at hcall
    generalize t.call mode (g.kindOf c) (g.run room c) args = o' at hcall
    cases hcall with
    | finished hresult h' => exact ih _ _ (hresult.answer mode) h'
    | violated hviolation h' => exact .violated hviolation h'
    | exhausted => exact .exhausted
  | @ask query next next' hnext ih => exact ih _ _ (h.answer query) h
  | @advance count next next' hnext ih =>
    simp only [Script.run]
    rcases h.advance count with ⟨u, v, hs, ht, h'⟩ | ⟨violation, violation', hs, ht, hviolation⟩
    · rw [hs, ht]
      exact ih h'
    · rw [hs, ht]
      exact .violated hviolation h
  | note message message' hnext ih =>
    exact ih (h.logged (s.exists_note message) (t.exists_note message'))
  | noteAttempt what what' hnext ih =>
    exact ih (h.logged (s.exists_noteAttempt what) (t.exists_noteAttempt what'))
  | takeLog hnext ih =>
    refine ih _ _ (fun hw => ?_) (h.logged ⟨_, rfl, by simp⟩ ⟨_, rfl, by simp⟩)
    have hlogging : s.log.isSome = t.log.isSome := h.logging hw
    simpa only [Scanner.takeLog, Option.isSome_map] using hlogging

theorem callee_matches (hg : g.Agrees k) (room : Nat) (c : Callee g.Rule) (s t : Scanner)
    (h : s.Matches k t) : (g.run room c s).Matches k (g.run room c t) := by
  induction room generalizing c s t with
  | zero => exact .exhausted
  | succ room ih => exact script_matches ih (hg.script c) h

/-- Scripts that agree do the same on scanners that match. -/
theorem run_matches (hg : g.Agrees k) (room : Nat) {α : Type} {script script' : Script g.Yield α}
    (hscript : script.Agrees k script') {s t : Scanner} (h : s.Matches k t) :
    (script.run g.kindOf (g.run room) s).Matches k (script'.run g.kindOf (g.run room) t) :=
  script_matches (callee_matches hg room) hscript h

end Grammar

def Failure.Within (known : Position → Prop) (f : Failure) : Prop :=
  ∀ link ∈ f.chain, known link.location

def Correspondence.diagonal (known : Position → Prop) (watched : Prop) : Correspondence where
  place p q := p = q ∧ known p
  buffer := Eq
  watched := watched

section Diagonal

variable {known : Position → Prop} {watched : Prop}

theorem Failure.Matches.eq_and_within {f f' : Failure}
    (h : f.Matches (Correspondence.diagonal known watched).place f') :
    f = f' ∧ f.Within known := by
  induction h with
  | single message h =>
    obtain ⟨rfl, hknown⟩ := h
    exact ⟨rfl, List.forall_mem_singleton.mpr hknown⟩
  | caused message h hcause ih =>
    obtain ⟨rfl, hknown⟩ := h
    obtain ⟨rfl, hwithin⟩ := ih
    exact ⟨rfl, List.forall_mem_cons.mpr ⟨hknown, hwithin⟩⟩

theorem Failure.Within.matches :
    (f : Failure) → f.Within known → f.Matches (Correspondence.diagonal known watched).place f
  | ⟨_, message, none⟩, h => .single message ⟨rfl, h _ (List.mem_singleton_self _)⟩
  | ⟨_, message, some cause⟩, h =>
    have hlinks := List.forall_mem_cons.mp h
    .caused message ⟨rfl, hlinks.1⟩ (Failure.Within.matches cause hlinks.2)

theorem ResultsMatch.eq {α : Type} {result result' : Except Failure α}
    (h : ResultsMatch (Correspondence.diagonal known watched).place result result') :
    result = result' := by
  cases h with
  | ok value => rfl
  | error h => rw [h.eq_and_within.1]

theorem Failure.Matches.record_eq {record record' : Option Failure}
    (h : Option.Rel (Failure.Matches (Correspondence.diagonal known watched).place) record
      record') : record = record' := by
  cases h with
  | none => rfl
  | some h => rw [h.eq_and_within.1]

theorem Failure.Within.record_matches {record : Option Failure}
    (h : ∀ f ∈ record, f.Within known) :
    Option.Rel (Failure.Matches (Correspondence.diagonal known watched).place) record record := by
  cases record with
  | none => exact .none
  | some f => exact .some (Failure.Within.matches f (h f rfl))

end Diagonal

end Descent
