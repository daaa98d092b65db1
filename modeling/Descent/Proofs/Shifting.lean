import Descent.Proofs.Calls
import Descent.Proofs.Calculator.Agreement
import Descent.Proofs.Json.Agreement

/-!
Parsing depends on the text that is left. With a text put in front, all places move: an offset
grows by the bytes of that text, but a column only on the line where it ends. A `Relative` script
does the same on moved places; it may use them for failures and compare them, with each other and
with the end of the text, but it can neither pass them on in values nor fail at a fixed place, nor
look at the text in front. A parse of such a script reads the same part for the same value, or
fails with the same messages at moved places.
-/
namespace Descent

/-- Places of a text and of the same text behind another one, by the part of the text before them.
-/
def Position.Moved (pre rest : String) (p q : Position) : Prop :=
  ∃ front back, rest.toList = front ++ back ∧ q = start.advance front ∧
    p = (start.advance pre.toList).advance front

/-- A text behind another one, and the same text by itself. -/
def Correspondence.moved (watched : Prop) (pre rest : String) : Correspondence where
  place := Position.Moved pre rest
  buffer whole part := whole = pre ++ rest ∧ part = rest
  watched := watched

/-- A script that does the same wherever its text stands. -/
def Script.Relative (watched : Prop) {ρ : Type} {Y : ρ → Type} {α : Type} (script : Script Y α) :
    Prop :=
  ∀ pre rest, script.Agrees (.moved watched pre rest) script

def Grammar.Relative (watched : Prop) (g : Grammar) : Prop := ∀ r, (g.body r).Relative watched

theorem Calculator.grammar_relative (watched : Prop) : Calculator.grammar.Relative watched :=
  fun r _ _ => Calculator.body_agrees r

theorem Json.grammar_relative (watched : Prop) : Json.grammar.Relative watched :=
  fun r _ _ => Json.body_agrees r

theorem Position.Moved.split {pre rest : String} {p q : Position} (h : Moved pre rest p q) :
    ∃ front back, Text.split q.offset rest.toList = some (front, back) ∧
      p = (start.advance pre.toList).advance front := by
  obtain ⟨front, back, hrest, rfl, hp⟩ := h
  exact ⟨front, back,
    (Text.split_eq_some_iff _ _ _ _).mpr ⟨hrest, (start_advance_offset front).symm⟩, hp⟩

/-- Both places are as far behind the start of their text. -/
theorem Position.Moved.offset {pre rest : String} {p q : Position} (h : Moved pre rest p q) :
    p.offset = (start.advance pre.toList).offset + q.offset := by
  obtain ⟨front, back, -, rfl, rfl⟩ := h
  rw [advance_offset _ front, start_advance_offset front]

/-- The result of a run, and the place where it ended. -/
def Outcome.ending {α : Type} : Outcome α → Option (Except Failure α × Position)
  | finished result t => some (result, t.location)
  | violated _ _ => none
  | exhausted => none

/-- Results that match at corresponding places, or none. -/
abbrev EndingsMatch (place : Position → Position → Prop) {α : Type} :
    Option (Except Failure α × Position) → Option (Except Failure α × Position) → Prop :=
  Option.Rel fun a b => ResultsMatch place a.1 b.1 ∧ place a.2 b.2

section Endings

variable {α : Type} {place : Position → Position → Prop} {o o' : Outcome α}
  {result : Except Failure α} {t : Scanner}

theorem Outcome.Matches.endings {k : Correspondence} (h : o.Matches k o') :
    EndingsMatch k.place o.ending o'.ending := by
  cases h with
  | finished hresult h => exact .some ⟨hresult, h.places_match⟩
  | violated => exact .none
  | exhausted => exact .none

theorem EndingsMatch.of_left (h : EndingsMatch place o.ending o'.ending)
    (ho : o = .finished result t) :
    ∃ result' t', o' = .finished result' t' ∧ ResultsMatch place result result' ∧
      place t.location t'.location := by
  subst ho
  cases o' with
  | finished result' t' =>
    cases h with
    | some h => exact ⟨result', t', rfl, h⟩
  | violated | exhausted => cases h

theorem EndingsMatch.of_right (h : EndingsMatch place o.ending o'.ending)
    (ho : o' = .finished result t) :
    ∃ result' t', o = .finished result' t' ∧ ResultsMatch place result' result ∧
      place t'.location t.location := by
  subst ho
  cases o with
  | finished result' t' =>
    cases h with
    | some h => exact ⟨result', t', rfl, h⟩
  | violated | exhausted => cases h

end Endings

namespace Scanner

/-- The scanner stands between two parts of its text. -/
structure Behind (s : Scanner) (pre rest : String) : Prop where
  buffer : s.buffer = pre ++ rest
  rest : s.rest = rest.toList
  location : s.location = Position.start.advance pre.toList

/-- A scanner behind a text, and one at the start of the rest of it, at the same depth and under
the same bound. If logs are watched, both keep one or none does. -/
structure Beside (watched : Prop) (pre rest : String) (s s₀ : Scanner) : Prop where
  behind : s.Behind pre rest
  fresh : s₀.Behind "" rest
  guard : s.guard = s₀.guard
  maxDepth : s.limits.maxDepth = s₀.limits.maxDepth
  logging : watched → s.isLogging = s₀.isLogging

def bare (s : Scanner) (args : List Argument) : Scanner :=
  { s with arguments := args, lastFailure := none }

theorem entered_bare (s : Scanner) (args : List Argument) :
    (s.bare args).entered args = s.entered args := rfl

variable {watched : Prop} {pre rest : String} {s s₀ : Scanner}

theorem Beside.matches (h : Beside watched pre rest s s₀) (args : List Argument) :
    (s.bare args).Matches (.moved watched pre rest) (s₀.bare args) := by
  obtain ⟨hs, hs₀, hguard, hdepth, hlogging⟩ := h
  refine ⟨⟨hs.buffer, ?_⟩, ?_, ?_, hguard, hdepth, rfl, .none, hlogging⟩
  · exact hs₀.buffer.trans String.empty_append
  · exact hs.rest.trans hs₀.rest.symm
  · intro front back hrest
    refine ⟨front, back, ?_, ?_, ?_⟩
    · rw [← hs.rest]
      exact hrest
    · exact congrArg (Position.advance · front) hs₀.location
    · exact congrArg (Position.advance · front) hs.location

/-- The arguments and the record of the caller have no part in how its parses end. -/
theorem parse_ending_eq {α : Type} (kind : String) (body : Scanner → Outcome α)
    {args : List Argument} {s' : Scanner} (hsame : s'.entered args = s.entered args) :
    (s'.call .parse kind body args).ending = (s.call .parse kind body args).ending := by
  have hlocation : s'.location = s.location := (Scanner.mk.inj hsame).2.2.1
  have hguard : s'.guard.deeper = s.guard.deeper := (Scanner.mk.inj hsame).2.2.2.2.1
  have hlimits : s'.limits = s.limits := (Scanner.mk.inj hsame).2.2.2.2.2.1
  have hadmits_iff : s'.Admits ↔ s.Admits := by
    unfold Admits
    rw [hguard, hlimits]
  unfold call
  by_cases hadmits : s.Admits
  · rw [invoke_of_admits hadmits, invoke_of_admits (hadmits_iff.mpr hadmits), hsame]
    cases body (s.entered args) with
    | finished result v =>
      obtain ⟨log, hnote, -⟩ := (s.left v).exists_noteOutcome s kind result
      obtain ⟨log', hnote', -⟩ := (s'.left v).exists_noteOutcome s' kind result
      dsimp only
      rw [hnote, hnote']
      cases result with
      | ok => rfl
      | error f => exact congrArg (fun p => some (Except.error f, p)) hlocation
    | violated => rfl
    | exhausted => rfl
  · rw [invoke_of_not_admits hadmits, invoke_of_not_admits (mt hadmits_iff.mp hadmits), hlocation,
      hguard, hlimits]
    exact congrArg (fun p => some (Except.error _, p)) hlocation

end Scanner

section Parse

variable {g : Grammar} {watched : Prop} {pre rest : String} {s s₀ : Scanner}

open Scanner

/-- A parse behind a text, and the same parse of the text by itself. What the callers have on
record plays no part, so that it is left out here. -/
theorem Grammar.parse_matches (hg : g.Relative watched) (h : Beside watched pre rest s s₀)
    (room : Nat) (c : Callee g.Rule) (args : List Argument) :
    ((s.bare args).call .parse (g.kindOf c) (g.run room c) args).Matches
      (.moved watched pre rest) ((s₀.bare args).call .parse (g.kindOf c) (g.run room c) args) :=
  have hmatches := h.matches args
  have hg' : g.Agrees (.moved watched pre rest) := fun r => hg r pre rest
  hmatches.call .parse (g.kindOf c) args
    (Grammar.callee_matches hg' room c _ _ (hmatches.entered args))

/-- So do the parses that the callers make themselves, as far as one can tell from how they end.
-/
theorem Grammar.parse_endings (hg : g.Relative watched) (h : Beside watched pre rest s s₀)
    (room : Nat) (c : Callee g.Rule) (args : List Argument) :
    EndingsMatch (Position.Moved pre rest)
      (s.call .parse (g.kindOf c) (g.run room c) args).ending
      (s₀.call .parse (g.kindOf c) (g.run room c) args).ending := by
  rw [← parse_ending_eq _ _ (s.entered_bare args), ← parse_ending_eq _ _ (s₀.entered_bare args)]
  exact (Grammar.parse_matches hg h room c args).endings

end Parse

/-- The law of shifts, for every relative grammar, every callee and arguments, and every place: a
parse behind a text does what it does with the rest of the text alone. Whether a contract is
broken or a bound refuses an invocation makes no difference to that. -/
theorem parsing_is_shift_invariant (g : Grammar) {watched : Prop} (hg : g.Relative watched)
    {pre rest : String} {s s₀ : Scanner} (h : Scanner.Beside watched pre rest s s₀) (room : Nat)
    (c : Callee g.Rule) (args : List Argument) :
    -- the same values, from as many bytes
    (∀ (value : c.Yield g.Yield) (n : Nat),
      (∃ t, s.call .parse (g.kindOf c) (g.run room c) args = .finished (.ok value) t ∧
        t.location.offset = s.location.offset + n) ↔
      ∃ t₀, s₀.call .parse (g.kindOf c) (g.run room c) args = .finished (.ok value) t₀ ∧
        t₀.location.offset = n) ∧
    -- the same failures, at places that are moved
    ((∃ f t, s.call .parse (g.kindOf c) (g.run room c) args = .finished (.error f) t) ↔
      ∃ f₀ t₀, s₀.call .parse (g.kindOf c) (g.run room c) args = .finished (.error f₀) t₀) ∧
    ∀ (f f₀ : Failure) (t t₀ : Scanner),
      s.call .parse (g.kindOf c) (g.run room c) args = .finished (.error f) t →
      s₀.call .parse (g.kindOf c) (g.run room c) args = .finished (.error f₀) t₀ →
      f.chain.map (·.message) = f₀.chain.map (·.message) ∧
      ∀ links ∈ f.chain.zip f₀.chain, ∃ front back,
        Text.split links.2.location.offset rest.toList = some (front, back) ∧
        links.1.location = s.location.advance front := by
  have hends := Grammar.parse_endings hg h room c args
  have hstart : s.location = Position.start.advance pre.toList := h.behind.location
  refine ⟨fun value n => ⟨?_, ?_⟩, ⟨?_, ?_⟩, ?_⟩
  · rintro ⟨t, hparse, hoffset⟩
    obtain ⟨result₀, t₀, hparse₀, hresult, hplace⟩ := hends.of_left hparse
    cases hresult
    have hmoved := hplace.offset
    rw [← hstart] at hmoved
    exact ⟨t₀, hparse₀, by omega⟩
  · rintro ⟨t₀, hparse₀, hoffset⟩
    obtain ⟨result, t, hparse, hresult, hplace⟩ := hends.of_right hparse₀
    cases hresult
    have hmoved := hplace.offset
    rw [← hstart] at hmoved
    exact ⟨t, hparse, by omega⟩
  · rintro ⟨f, t, hparse⟩
    obtain ⟨result₀, t₀, hparse₀, hresult, -⟩ := hends.of_left hparse
    cases hresult
    exact ⟨_, t₀, hparse₀⟩
  · rintro ⟨f₀, t₀, hparse₀⟩
    obtain ⟨result, t, hparse, hresult, -⟩ := hends.of_right hparse₀
    cases hresult
    exact ⟨_, t, hparse⟩
  · intro f f₀ t t₀ hparse hparse₀
    obtain ⟨result₀, u₀, hrun₀, hresult, -⟩ := hends.of_left hparse
    rw [hparse₀] at hrun₀
    cases hrun₀
    cases hresult with
    | error hfailure =>
      refine ⟨hfailure.messages, fun links hlinks => ?_⟩
      rw [hstart]
      exact (hfailure.places links hlinks).split

/-- An object with a repeated key, behind a line with a character of two bytes and by itself. -/
theorem parsing_is_shift_invariant_behind_line :
    let g := Json.grammar
    let rest := "\x7b\"a\": 1,\n \"a\": 2\x7d"
    let s : Scanner :=
      { Scanner.ofString ("é\n" ++ rest) {} with rest := rest.toList, location := ⟨3, 2, 0⟩ }
    let s₀ := Scanner.ofString rest {}
    let c : Callee g.Rule := .rule .object
    g.Relative True ∧ Scanner.Beside True "é\n" rest s s₀ ∧
      ((∃ f t, s.call .parse (g.kindOf c) (g.run 512 c) [] = .finished (.error f) t) ↔
        ∃ f₀ t₀, s₀.call .parse (g.kindOf c) (g.run 512 c) [] = .finished (.error f₀) t₀) := by
  intro g rest s s₀ c
  have hg : g.Relative True := Json.grammar_relative True
  have hbeside : Scanner.Beside True "é\n" rest s s₀ :=
    ⟨⟨rfl, rfl, rfl⟩, ⟨String.empty_append.symm, rfl, rfl⟩, rfl, rfl, fun _ => rfl⟩
  exact ⟨hg, hbeside, (parsing_is_shift_invariant g hg hbeside 512 c []).2.1⟩

end Descent
