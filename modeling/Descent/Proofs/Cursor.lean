import Descent.Proofs.Operations
import Descent.Calculator

/-!
The cursor. A scanner is `Placed` if the text before its place and the text left are the whole
text, and its place is the one behind the text before it: then its offset is a border of
characters within the text. All scanners that runs come by are placed, through every rollback,
since runs only move onward and calls only go back to where they were made. A `Steady` script
leaves moving to the tokens, and its tokens read from where the scanner stands; no run of it
breaks the contract of moving forward.
-/
namespace Descent

namespace Text

theorem utf8ByteSize_ofList (cs : List Char) : (String.ofList cs).utf8ByteSize = width cs := by
  induction cs with
  | nil => rfl
  | cons c cs ih =>
    have hcons : String.ofList (c :: cs) = String.singleton c ++ String.ofList cs := by
      apply String.toList_inj.mp
      simp
    rw [hcons, String.utf8ByteSize_append, String.utf8ByteSize_singleton, ih, width_cons]

theorem isValid_width {text : String} {front back : List Char} (h : text.toList = front ++ back) :
    String.Pos.Raw.IsValid text ⟨width front⟩ := by
  rw [String.Pos.Raw.isValid_iff_exists_append]
  refine ⟨String.ofList front, String.ofList back, ?_, ?_⟩
  · rw [← String.ofList_append, ← h, String.ofList_toList]
  · rw [String.Pos.Raw.ext_iff, String.byteIdx_rawEndPos, utf8ByteSize_ofList]

end Text

namespace Scanner

/-- The place is the one behind the text that is not left. -/
def Placed (s : Scanner) : Prop :=
  ∃ front, s.buffer.toList = front ++ s.rest ∧ s.location = Position.start.advance front

theorem Fresh.placed {s : Scanner} (h : s.Fresh) : s.Placed := by
  obtain ⟨text, limits, rfl | rfl⟩ := h
  · exact ⟨[], rfl, rfl⟩
  · exact ⟨[], rfl, rfl⟩

theorem Onward.placed {s t : Scanner} (h : s.Onward t) (hs : s.Placed) : t.Placed := by
  obtain ⟨before, hbuffer, hloc⟩ := hs
  obtain ⟨front, hrest, hloc'⟩ := h.passed
  refine ⟨before ++ front, ?_, ?_⟩
  · rw [h.frame.buffer, hbuffer, hrest, List.append_assoc]
  · rw [hloc', hloc, Position.advance_append]

theorem Onward.offset_le {s t : Scanner} (h : s.Onward t) :
    s.location.offset ≤ t.location.offset := by
  obtain ⟨front, -, hloc⟩ := h.passed
  rw [hloc, Position.advance_offset]
  exact Nat.le_add_right _ _

theorem textSince_eq {s t : Scanner} {front : List Char} (h : s.rest = front ++ t.rest) :
    t.textSince s = front := by
  unfold textSince
  have hlength : s.rest.length - t.rest.length = front.length := by
    rw [h, List.length_append]
    omega
  rw [hlength, h, List.take_left]

theorem Placed.split {s : Scanner} (h : s.Placed) :
    ∃ front, Text.split s.location.offset s.buffer.toList = some (front, s.rest) ∧
      s.location = Position.start.advance front := by
  obtain ⟨front, hbuffer, hloc⟩ := h
  refine ⟨front, (Text.split_eq_some_iff _ _ _ _).mpr ⟨hbuffer, ?_⟩, hloc⟩
  rw [hloc]
  exact (Position.start_advance_offset front).symm

theorem Placed.atEnd_iff {s : Scanner} (h : s.Placed) : s.atEnd = true ↔ s.rest = [] := by
  obtain ⟨front, hbuffer, hloc⟩ := h
  have hoffset : s.location.offset = Text.width front := by
    rw [hloc, Position.start_advance_offset]
  unfold atEnd length
  rw [hoffset, hbuffer, Text.width_append, decide_eq_true_eq]
  constructor
  · intro hle
    have hlength := Text.length_le_width s.rest
    exact List.length_eq_zero_iff.mp (by omega)
  · intro hrest
    rw [hrest, Text.width_nil]
    exact Nat.le_refl _

theorem advance_of_prefix {s : Scanner} {front back : List Char} (h : s.rest = front ++ back) :
    ∃ t, s.advance (Text.width front) = .ok t ∧ t.rest = back :=
  ⟨{ s with rest := back, location := s.location.advance front },
    (s.advance_eq_ok_iff _ _).mpr ⟨front, h, rfl, rfl⟩, rfl⟩

end Scanner

/-- Every match of the pattern begins where it was looked for. -/
def Pattern.StartsHere (p : Pattern) : Prop :=
  ∀ text m, p.find? text = some m → m.whole.start = 0

/-- A token that reads from where it stands; only groups may do otherwise. -/
def Token.Steady : Token → Prop
  | groups p => p.StartsHere
  | _ => True

def Callee.Steady {ρ : Type} : Callee ρ → Prop
  | token t => t.Steady
  | rule _ => True

/-- An operation that leaves moving to such tokens. -/
def Operation.Steady {ρ : Type} : Operation ρ → Prop
  | call _ c => c.Steady
  | advance _ => False
  | _ => True

abbrev Script.Steady {ρ : Type} {Y : ρ → Type} {α : Type} (script : Script Y α) : Prop :=
  script.Uses Operation.Steady

def Grammar.Steady (g : Grammar) : Prop := ∀ r, (g.body r).Steady

namespace Token

/-- What a token reads is a front part of the text left. -/
theorem reading_prefix {t : Token} (ht : t.Steady) {rest : List Char}
    {count : Nat} {value : t.Yield} (h : t.reading rest = .ok (count, value)) :
    ∃ front back, rest = front ++ back ∧ count = Text.width front := by
  cases t with
  | literal text =>
    simp only [reading] at h
    split at h
    · cases h
    · split at h
      · cases h
      · next hprefix =>
        obtain ⟨back, hback⟩ : text.toList <+: rest := by simpa using hprefix
        cases h
        exact ⟨text.toList, back, hback.symm, rfl⟩
  | anyOf characters =>
    cases h
    exact ⟨_, _, List.takeWhile_append_dropWhile.symm, rfl⟩
  | pattern p =>
    simp only [reading] at h
    split at h
    · cases h
    · next m hfind =>
      cases h
      exact ⟨_, _, (List.take_append_drop m.whole.stop rest).symm, rfl⟩
  | groups p =>
    simp only [reading] at h
    split at h
    · cases h
    · next m hfind =>
      cases h
      have hstart : m.whole.start = 0 := ht rest m hfind
      refine ⟨_, _, (List.take_append_drop m.whole.stop rest).symm, ?_⟩
      unfold Regex.Span.slice
      rw [hstart, List.drop_zero, Nat.sub_zero]

theorem run_ne_violated {ρ : Type} {Y : ρ → Type} {t : Token} (ht : t.Steady)
    (kind : Callee ρ → String)
    (body : (c : Callee ρ) → Scanner → Outcome (c.Yield Y)) (s u : Scanner)
    (violation : Violation) :
    (t.script : Script Y t.Yield).run kind body s ≠ .violated violation u := by
  intro h
  rw [run_script] at h
  split at h
  · cases h
  · next count value hread =>
    obtain ⟨front, back, hrest, hcount⟩ := reading_prefix ht hread
    obtain ⟨log, hnote, -⟩ := s.exists_noteAttempt t.what
    have hrest' : (s.noteAttempt t.what).rest = front ++ back := by rw [hnote, hrest]
    obtain ⟨v, hadvance, -⟩ := Scanner.advance_of_prefix hrest'
    rw [hcount, hadvance] at h
    cases h

end Token

namespace Scanner

theorem call_ne_violated {α : Type} {mode : Mode} {s : Scanner} {kind : String}
    {body : Scanner → Outcome α} {args : List Argument}
    (hbody : ∀ violation u, body (s.entered args) ≠ .violated violation u) (violation : Violation)
    (u : Scanner) : s.call mode kind body args ≠ .violated violation u := by
  intro h
  unfold call at h
  by_cases hadmits : s.Admits
  · rw [invoke_of_admits hadmits] at h
    cases hrun : body (s.entered args) with
    | finished result v =>
      rw [hrun] at h
      cases h
    | violated violation' v => exact hbody _ _ hrun
    | exhausted =>
      rw [hrun] at h
      cases h
  · rw [invoke_of_not_admits hadmits] at h
    cases h

end Scanner

namespace Grammar

variable {g : Grammar}

theorem script_ne_violated {room : Nat}
    (hcallees : ∀ c : Callee g.Rule, c.Steady → ∀ (s u : Scanner) (violation : Violation),
      g.run room c s ≠ .violated violation u)
    {α : Type} (script : Script g.Yield α) (hscript : script.Steady) (s u : Scanner)
    (violation : Violation) :
    script.run g.kindOf (g.run room) s ≠ .violated violation u := by
  induction script generalizing s with
  | done | raise =>
    intro h
    cases h
  | call mode c args next ih =>
    intro h
    simp only [Script.run] at h
    split at h
    · exact ih _ (hscript.2 _) _ h
    · next hcall =>
      refine Scanner.call_ne_violated (fun violation u => ?_) _ _ hcall
      exact hcallees c hscript.1 _ _ _
    · cases h
  | ask query next ih => exact ih _ (hscript.2 _) s
  | advance count next ih => exact hscript.1.elim
  | note message next ih => exact ih hscript.2 _
  | noteAttempt what next ih => exact ih hscript.2 _
  | takeLog next ih => exact ih _ (hscript.2 _) _

/-- No steady callee breaks the contract of moving forward. -/
theorem callee_ne_violated (hg : g.Steady) (room : Nat) (c : Callee g.Rule) (hc : c.Steady)
    (s u : Scanner) (violation : Violation) : g.run room c s ≠ .violated violation u := by
  induction room generalizing c s u violation with
  | zero =>
    intro h
    cases h
  | succ room ih =>
    cases c with
    | rule r => exact script_ne_violated ih (g.body r) (hg r) _ _ _
    | token t => exact Token.run_ne_violated hc g.kindOf (g.run room) _ _ _

theorem Reachable.placed {first s : Scanner} {room : Nat} (h : g.Reachable first room s)
    (hfresh : first.Fresh) : s.Placed := by
  induction h with
  | start => exact hfresh.placed
  | enter _ hadmits args ih => exact ih
  | run hs script hrun ih => exact (run_onward script (hs.fits hfresh) hrun).placed ih

end Grammar

/-- The law of the cursor, for every grammar and every scanner that runs come by. -/
theorem cursor_stays_placed (g : Grammar) {first s : Scanner} {room : Nat} (hfresh : first.Fresh)
    (hs : g.Reachable first room s) :
    -- the place is a border of characters in the text, reached by the text before it
    s.location.offset ≤ s.length ∧
    String.Pos.Raw.IsValid s.buffer ⟨s.location.offset⟩ ∧
    (∃ front, Text.split s.location.offset s.buffer.toList = some (front, s.rest) ∧
      s.location = Position.start.advance front) ∧
    -- what a successful invocation read is a stretch of the text
    (∀ (c : Callee g.Rule) (args : List Argument) (value : c.Yield g.Yield) (t : Scanner),
      s.invoke (g.kindOf c) (g.run room c) args = .finished (.ok value) t →
      s.location.offset ≤ t.location.offset ∧
      ∃ consumed, s.rest = consumed ++ t.rest ∧ t.textSince s = consumed ∧
        t.location = s.location.advance consumed) ∧
    -- steady runs keep the contract of moving forward
    (g.Steady →
      (∀ c : Callee g.Rule, c.Steady → ∀ (violation : Violation) (t : Scanner),
        g.run room c s ≠ .violated violation t) ∧
      ∀ {α : Type} (script : Script g.Yield α), script.Steady →
        ∀ (violation : Violation) (t : Scanner),
          script.run g.kindOf (g.run room) s ≠ .violated violation t) := by
  obtain ⟨front, hsplit, hloc⟩ := (hs.placed hfresh).split
  obtain ⟨hbuffer, hwidth⟩ := (Text.split_eq_some_iff _ _ _ _).mp hsplit
  refine ⟨?_, ?_, ⟨front, hsplit, hloc⟩, ?_, ?_⟩
  · unfold Scanner.length
    rw [← hwidth, hbuffer, Text.width_append]
    exact Nat.le_add_right _ _
  · rw [← hwidth]
    exact Text.isValid_width hbuffer
  · intro c args value t hinvoke
    have honward : s.Onward t :=
      Grammar.invoke_onward (g.calleesOnward room) (hs.fits hfresh) hinvoke
    obtain ⟨consumed, hrest, hplace⟩ := honward.passed
    exact ⟨honward.offset_le, consumed, hrest, Scanner.textSince_eq hrest, hplace⟩
  · intro hg
    refine ⟨fun c hc violation t => Grammar.callee_ne_violated hg room c hc s t violation, ?_⟩
    intro α script hscript violation t
    exact Grammar.script_ne_violated (Grammar.callee_ne_violated hg room) script hscript s t
      violation

namespace Calculator

open Script

/-- What the calculator does with a scanner: it invokes steady callees and logs, and it asks for
the text left and for what a failure needs. -/
structure Allowed (allowed : Operation Rule → Prop) : Prop where
  call : ∀ (mode : Mode) (c : Callee Rule), c.Steady → allowed (.call mode c)
  note : allowed .note
  remaining : allowed (.ask .remaining)
  location : allowed (.ask .location)
  lastFailure : allowed (.ask .lastFailure)

variable {allowed : Operation Rule → Prop}

theorem operator?_uses (h : Allowed allowed) (ops : List Operator) :
    (operator? ops).Uses allowed := by
  induction ops with
  | nil => trivial
  | cons op ops ih =>
    refine uses_bind (uses_succeeds (h.call _ _ trivial)) fun found => ?_
    cases found with
    | true => trivial
    | false => exact ih

theorem chainRest_uses (h : Allowed allowed) (operand : Rule) (ops : List Operator) (rounds : Nat)
    (value : Float) : (chainRest operand ops rounds value).Uses allowed := by
  induction rounds generalizing value with
  | zero => trivial
  | succ rounds ih =>
    refine uses_bind (operator?_uses h ops) fun op => ?_
    cases op with
    | none => trivial
    | some op => exact uses_bind (uses_parse (h.call _ _ trivial)) fun next => ih _

theorem chain_uses (h : Allowed allowed) (operand : Rule) (ops : List Operator) :
    (chain operand ops).Uses allowed :=
  uses_bind (uses_parse (h.call _ _ trivial)) fun first =>
    ⟨h.remaining, fun _ => chainRest_uses h operand ops _ first⟩

theorem valueBody_uses (h : Allowed allowed) : valueBody.Uses allowed := by
  have hblanks : (skip (.token blanks) : Script Yield Unit).Uses allowed :=
    uses_skip (h.call _ _ trivial)
  refine uses_bind hblanks fun _ => ⟨h.note, h.call _ _ trivial, fun digits => ?_⟩
  cases digits with
  | ok digits =>
    simp only [Script.bind]
    cases Decimal.readFloat? digits.toList with
    | none => exact uses_fail _ h.location h.lastFailure
    | some x => exact uses_bind hblanks fun _ => trivial
  | error =>
    simp only [Script.bind]
    refine uses_bind (uses_succeeds (h.call _ _ trivial)) fun found => ?_
    cases found with
    | true =>
      exact uses_bind (uses_parse (h.call _ _ trivial)) fun inner =>
        uses_bind (uses_parse (h.call _ _ trivial)) fun _ => uses_bind hblanks fun _ => trivial
    | false => exact uses_fail _ h.location h.lastFailure

theorem body_uses (h : Allowed allowed) (r : Rule) : (body r).Uses allowed := by
  cases r with
  | expr => exact ⟨h.note, uses_parse (h.call _ _ trivial)⟩
  | sum => exact ⟨h.note, chain_uses h _ _⟩
  | product => exact ⟨h.note, chain_uses h _ _⟩
  | value => exact valueBody_uses h

theorem grammar_steady : grammar.Steady :=
  body_uses ⟨fun _ _ hc => hc, trivial, trivial, trivial, trivial⟩

end Calculator

/-- The law in the middle of a text with characters of several bytes and a line break. -/
theorem cursor_stays_placed_behind_line :
    let g := Calculator.grammar
    let first := (Scanner.ofString "é\n1+(2" {}).withLog
    let s : Scanner := { first with rest := "1+(2".toList, location := ⟨3, 2, 0⟩ }
    first.Fresh ∧ g.Reachable first 513 s ∧ g.Steady ∧
      s.location.offset ≤ s.length ∧ String.Pos.Raw.IsValid s.buffer ⟨3⟩ ∧
      ∀ (violation : Violation) (t : Scanner),
        g.run 513 (.rule .expr) s ≠ .violated violation t := by
  intro g first s
  have hfresh : first.Fresh := ⟨"é\n1+(2", {}, Or.inr rfl⟩
  have hmove : (Script.move 3 : Script g.Yield Unit).run g.kindOf (g.run 513) first =
      .finished (.ok ()) s := rfl
  have hs : g.Reachable first 513 s := .run .start (Script.move 3) hmove
  obtain ⟨hoffset, hborder, -, -, hsteady⟩ := cursor_stays_placed g hfresh hs
  exact ⟨hfresh, hs, Calculator.grammar_steady, hoffset, hborder,
    (hsteady Calculator.grammar_steady).1 (.rule .expr) trivial⟩

end Descent
