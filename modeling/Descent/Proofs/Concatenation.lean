import Descent.Proofs.Lines
import Descent.Proofs.Refusal
import Descent.Session.Grammar

/-!
Literals in sequence. Several literals one behind another read what the literal of their
concatenation reads. Where that one does not come next, some literal is the first that does not
come next behind the ones before it, and the sequence fails as that literal fails there. Both
follow the list of the texts: a literal that is read leaves a scanner further on, and the others
start there. That values are kept in a list or side by side makes no difference to the run: a
sequence is the row of its values, looked at as a list (`toList_tuple`).
-/
namespace Descent

namespace Text

/-- A text begins with all of the texts one behind another, or some text is the first of them that
does not come next. -/
theorem begins_join_or (texts : List String) (text : List Char) :
    (∃ rest, text = (String.join texts).toList ++ rest) ∨
      ∃ front next behind rest, texts = front ++ next :: behind ∧
        text = (String.join front).toList ++ rest ∧ ¬ next.toList <+: rest := by
  induction texts generalizing text with
  | nil => exact .inl ⟨text, by rw [String.join_nil]; rfl⟩
  | cons first texts ih =>
    by_cases hfirst : first.toList <+: text
    · obtain ⟨others, rfl⟩ := hfirst
      rcases ih others with ⟨rest, rfl⟩ | ⟨front, next, behind, rest, rfl, rfl, hnext⟩
      · exact .inl ⟨rest, by rw [String.join_cons, String.toList_append, List.append_assoc]⟩
      · refine .inr ⟨first :: front, next, behind, rest, rfl, ?_, hnext⟩
        rw [String.join_cons, String.toList_append, List.append_assoc]
    · exact .inr ⟨[], first, texts, text, rfl, by rw [String.join_nil]; rfl, hfirst⟩

theorem not_begins_join {front behind : List String} {next : String} {rest : List Char}
    (hnext : ¬ next.toList <+: rest) :
    ¬ (String.join (front ++ next :: behind)).toList <+: (String.join front).toList ++ rest := by
  rw [String.join_append, String.join_cons, String.toList_append, String.toList_append,
    List.prefix_append_right_inj]
  exact fun h => hnext ((List.prefix_append _ _).trans h)

theorem isPrefixOf_eq_false {word text : List Char} (h : ¬ word <+: text) :
    word.isPrefixOf text = false :=
  Bool.eq_false_iff.mpr fun hprefix => h (List.isPrefixOf_iff_prefix.mp hprefix)

end Text

namespace Scanner

def parsed (s inner : Scanner) : Scanner := { s.left inner with lastFailure := none }

theorem note_injective {s : Scanner} (h : s.isLogging = true) {message message' : String}
    (hsame : s.note message = s.note message') : message = message' := by
  obtain ⟨log, hlog⟩ := Option.isSome_iff_exists.mp h
  have hlogs : s.log.map (⟨s.depth, message⟩ :: ·) = s.log.map (⟨s.depth, message'⟩ :: ·) :=
    congrArg Scanner.log hsame
  rw [hlog, Option.map_some, Option.map_some, Option.some.injEq, List.cons.injEq,
    Line.mk.injEq] at hlogs
  exact hlogs.1.2

theorem SameFrame.admits {s t : Scanner} (h : s.SameFrame t) (hs : s.Admits) : t.Admits := by
  unfold Admits
  rw [h.guard, h.limits]
  exact hs

end Scanner

namespace Script

variable {ρ : Type} {Y : ρ → Type} {α β : Type} {kind : Callee ρ → String}
  {body : (c : Callee ρ) → Scanner → Outcome (c.Yield Y)}

/-- Stages with their values side by side are the stages with their values in a list. -/
theorem toList_tuple (stage : β → Script Y α) (xs : List β) :
    (fun row => row.toList fun _ => id) <$> tuple (V := fun _ => α) stage xs =
      sequence stage xs := by
  induction xs with
  | nil => rfl
  | cons x xs ih =>
    simp only [tuple, sequence, map_bind, ← ih, bind_map_left, map_pure]
    rfl

theorem literals_eq (texts : List String) :
    (literals texts : Script Y (List String)) =
      (fun row => row.toList fun _ => id) <$> literalTuple texts :=
  (toList_tuple (fun text => parse (.token (.literal text))) texts).symm

theorem run_map (f : α → β) (script : Script Y α) (s : Scanner) :
    (f <$> script).run kind body s =
      (script.run kind body s).andThen fun value u => .finished (.ok (f value)) u :=
  run_bind kind body script (fun value => done (f value)) s

theorem run_of_map_ok {f : α → β} {script : Script Y α} {s u : Scanner} {value : β}
    (h : (f <$> script).run kind body s = .finished (.ok value) u) :
    ∃ value', f value' = value ∧ script.run kind body s = .finished (.ok value') u := by
  obtain ⟨value', t, hrun, ht⟩ := bind_of_run (f := fun value => done (f value)) h
  cases ht
  exact ⟨value', rfl, hrun⟩

theorem run_of_map_error {f : α → β} {script : Script Y α} {s u : Scanner} {failure : Failure}
    (h : (f <$> script).run kind body s = .finished (.error failure) u) :
    script.run kind body s = .finished (.error failure) u := by
  rw [run_map] at h
  cases hrun : script.run kind body s with
  | finished result t =>
    rw [hrun] at h
    cases result with
    | ok value => cases h
    | error failure' =>
      cases h
      rfl
  | violated =>
    rw [hrun] at h
    cases h
  | exhausted =>
    rw [hrun] at h
    cases h

theorem invocations_map {inside : Callee ρ → Scanner → List (Invocation ρ)} (f : α → β)
    (script : Script Y α) (s : Scanner) :
    (f <$> script).invocations kind body inside s = script.invocations kind body inside s := by
  change (script.bind fun value => done (f value)).invocations kind body inside s = _
  induction script generalizing s with
  | done | raise => rfl
  | call mode c args next ih =>
    simp only [bind, invocations]
    cases s.call mode (kind c) (body c) args with
    | finished result t => simp only [ih]
    | violated | exhausted => rfl
  | ask _ _ ih | takeLog _ ih => exact ih _ _
  | advance count next ih =>
    simp only [bind, invocations]
    cases s.advance count with
    | ok t => exact ih t
    | error => rfl
  | note _ _ ih | noteAttempt _ _ ih => exact ih _

end Script

namespace Grammar

open Scanner Script

variable {g : Grammar} {room : Nat} {s : Scanner} {α : Type}

/-- What a script invokes, in order. -/
def invoked (g : Grammar) (room : Nat) (script : Script g.Yield α) (s : Scanner) :
    List (Callee g.Rule) :=
  (script.invocations g.kindOf (g.run room) (g.invocations room) s).map Invocation.callee

/-- Parses what a script reads, as a callee with the given kind of values. -/
def parseScript (g : Grammar) (room : Nat) (kind : String) (script : Script g.Yield α)
    (s : Scanner) : Outcome α :=
  s.call .parse kind (script.run g.kindOf (g.run room)) []

section Stages

variable {t : Token} {f : t.Yield → Script g.Yield α} {u : Scanner}

theorem invoked_of_ok {value : t.Yield}
    (h : s.call .parse (g.kindOf (.token t)) (g.run room (.token t)) [] =
      .finished (.ok value) u) :
    g.invoked room (Script.parse (.token t) >>= f) s =
      Callee.token t :: g.invoked room (f value) u := by
  change List.map _ (Script.invocations _ _ _ (call .parse (.token t) [] _) s) = _
  simp only [Script.invocations, h, invocations_token, ite_self, List.nil_append, List.map_cons]
  rfl

theorem invoked_of_error {failure : Failure}
    (h : s.call .parse (g.kindOf (.token t)) (g.run room (.token t)) [] =
      .finished (.error failure) u) :
    g.invoked room (Script.parse (.token t) >>= f) s = [Callee.token t] := by
  change List.map _ (Script.invocations _ _ _ (call .parse (.token t) [] _) s) = _
  simp only [Script.invocations, h, invocations_token, ite_self, List.nil_append, List.map_cons]
  rfl

theorem invoked_map {β : Type} (f : α → β) (script : Script g.Yield α) :
    g.invoked room (f <$> script) s = g.invoked room script s :=
  congrArg _ (invocations_map f script s)

end Stages

section Literals

variable {texts : List String} {rest : List Char}

abbrev ofText (g : Grammar) (text : String) : Callee g.Rule := .token (.literal text)

/-- The first of several literals that stand next is read, and the others stand next behind it. -/
theorem call_first_text {text : String} (hs : s.Fits (room + 1)) (hadmits : s.Admits)
    (hrest : s.rest = (String.join (text :: texts)).toList ++ rest) :
    ∃ v, s.call .parse (g.kindOf (g.ofText text)) (g.run (room + 1) (g.ofText text)) [] =
        .finished (.ok text) v ∧
      s.Onward v ∧ v.Fits (room + 1) ∧ v.Admits ∧ v.rest = (String.join texts).toList ++ rest ∧
      v.location = s.location.advance text.toList := by
  rw [String.join_cons, String.toList_append, List.append_assoc] at hrest
  have htakes := Token.takes_literal text ((String.join texts).toList ++ rest)
  rw [← hrest] at htakes
  obtain ⟨v, hcall, hv, hvrest⟩ := call_token_takes (g := g) hs hadmits [] htakes .parse
  refine ⟨v, hcall, hv, hv.frame.fits hs, hv.frame.admits hadmits, hvrest, ?_⟩
  exact hv.place_eq (hrest.trans (congrArg _ hvrest.symm))

/-- Literals that stand next one behind another are all read. -/
theorem literals_ok (hs : s.Fits (room + 1)) (hadmits : s.Admits)
    (hrest : s.rest = (String.join texts).toList ++ rest) :
    ∃ u, (literals texts).run g.kindOf (g.run (room + 1)) s = .finished (.ok texts) u ∧
      s.Onward u ∧ u.rest = rest := by
  induction texts generalizing s with
  | nil =>
    rw [String.join_nil] at hrest
    exact ⟨s, rfl, .refl s, hrest⟩
  | cons text texts ih =>
    obtain ⟨v, hcall, hv, hfits, hadmits', hvrest, -⟩ := call_first_text (g := g) hs hadmits hrest
    obtain ⟨u, hrun, hu, hurest⟩ := ih hfits hadmits' hvrest
    exact ⟨u, (run_parse hcall).trans (run_bind_of_ok hrun), hv.trans hu, hurest⟩

/-- Where a literal is the first that does not stand next, the sequence fails as the literal fails
there, and does not go on to those behind it. -/
theorem literals_error (hs : s.Fits (room + 1)) (hadmits : s.Admits) {front : List String}
    {next : String} (behind : List String) (hrest : s.rest = (String.join front).toList ++ rest)
    {reason : Reason} (hread : (Token.literal next).reading rest = .error reason) :
    ∃ u, (literals (front ++ next :: behind)).run g.kindOf (g.run (room + 1)) s =
        .finished (.error (.ofReason (s.location.advance (String.join front).toList) reason)) u ∧
      g.invoked (room + 1) (literals (front ++ next :: behind)) s =
        (front ++ [next]).map g.ofText := by
  induction front generalizing s with
  | nil =>
    rw [String.join_nil] at hrest
    have hread' : (Token.literal next).reading s.rest = .error reason := hrest ▸ hread
    obtain ⟨v, hcall, -, -⟩ := call_token_error (g := g) hs hadmits [] hread' .parse
    exact ⟨v, run_call hcall, invoked_of_error hcall⟩
  | cons text front ih =>
    obtain ⟨v, hcall, -, hfits, hadmits', hvrest, hplace⟩ :=
      call_first_text (g := g) hs hadmits hrest
    obtain ⟨u, hrun, hinvoked⟩ := ih hfits hadmits' hvrest
    refine ⟨u, ?_, ?_⟩
    · refine (run_parse hcall).trans ?_
      rw [String.join_cons, String.toList_append, Position.advance_append, ← hplace]
      exact run_bind_of_error hrun
    · refine (invoked_of_ok hcall).trans (congrArg _ ?_)
      exact (invoked_map (List.cons text) _).trans hinvoked

end Literals

section Calls

variable {script : Script g.Yield α} {u : Scanner}

/-- Behind a script that came to a value as a callee, the line that is logged last is all that
tells the kind of the value. -/
theorem parseScript_ok (hadmits : s.Admits) {value : α} {front : List Char}
    (h : script.run g.kindOf (g.run room) (s.entered []) = .finished (.ok value) u)
    (hrest : s.rest = front ++ u.rest) (kind : String) :
    g.parseScript room kind script s = .finished (.ok value)
      ((s.parsed u).note
        ("+ " ++ kind ++ " " ++ Text.quotedList front)) := by
  have hsince : (s.left u).textSince s = front := textSince_eq hrest
  unfold parseScript
  rw [call_of_admits hadmits h .parse, noteOutcome_eq, outcome, hsince]
  rfl

theorem parseScript_error (hadmits : s.Admits) {failure : Failure}
    (h : script.run g.kindOf (g.run room) (s.entered []) = .finished (.error failure) u)
    (kind : String) :
    g.parseScript room kind script s = .finished (.error failure)
      { ((s.left u).note ("! " ++ failure.location.display ++ ": " ++ failure.message)).returnTo s
        with lastFailure := some failure } := by
  unfold parseScript
  rw [call_of_admits hadmits h .parse, noteOutcome_eq]
  rfl

end Calls

theorem Reachable.two_levels {first : Scanner} (hs : g.Reachable first (room + 1) s)
    (hfresh : first.Fresh) (hlevels : s.depth + 2 ≤ min s.limits.maxDepth unlimited) :
    s.Admits ∧ ∃ below, room = below + 1 ∧ (s.entered []).Fits (below + 1) ∧
      (s.entered []).Admits := by
  have hfits := hs.fits hfresh
  have hadmits : s.Admits := hfits.admits_iff.mpr (by omega)
  have hentered := hfits.entered hadmits []
  have hsum := hs.depth_add_room hfresh
  rw [levels, ← hs.limits hfresh] at hsum
  obtain ⟨below, rfl⟩ : ∃ below, room = below + 1 := ⟨room - 1, by omega⟩
  refine ⟨hadmits, below, rfl, hentered, hentered.admits_iff.mpr ?_⟩
  rw [hfits.entered_depth []]
  change s.depth + 1 + 1 ≤ s.limits.maxDepth
  omega

end Grammar

open Grammar Script

/-- Literals in sequence, on every scanner that runs come by and from which two more levels are
within the bound, against the literal of their concatenation. Either that one stands next: then
all are read, and there is no difference between values in a list and values side by side but the
kind that is logged. Or some literal is the first that does not stand next: then the sequence
fails as that one, without going on to those behind it. -/
theorem literals_concatenate (g : Grammar) {first s : Scanner} {room : Nat} (hfresh : first.Fresh)
    (hs : g.Reachable first (room + 1) s)
    (hlevels : s.depth + 2 ≤ min s.limits.maxDepth unlimited) (texts : List String)
    (listKind tupleKind : String) :
    (∃ (rest : List Char) (row : Row (fun _ => String) texts) (t u : Scanner),
      s.rest = (String.join texts).toList ++ rest ∧
      -- the literal of the concatenation
      s.call .parse (g.kindOf (g.ofText (String.join texts)))
        (g.run (room + 1) (g.ofText (String.join texts))) [] =
          .finished (.ok (String.join texts)) u ∧
      u.location = s.location.advance (String.join texts).toList ∧ u.rest = rest ∧
      -- values in a list
      g.parseScript room listKind (literals texts) s = .finished (.ok texts)
        (t.note ("+ " ++ listKind ++ " " ++ Text.quoted (String.join texts))) ∧
      t.location = u.location ∧ t.rest = rest ∧
      -- values side by side
      g.parseScript room tupleKind (literalTuple texts) s = .finished (.ok row)
        (t.note ("+ " ++ tupleKind ++ " " ++ Text.quoted (String.join texts))) ∧
      row.toList (fun _ => id) = texts) ∨
    (∃ front next behind rest reason t u failure,
      -- the first that does not stand next
      texts = front ++ next :: behind ∧ s.rest = (String.join front).toList ++ rest ∧
      ¬ next.toList <+: rest ∧ (Token.literal next).reading rest = .error reason ∧
      -- the literal of the concatenation
      ¬ (String.join texts).toList <+: s.rest ∧
      s.call .parse (g.kindOf (g.ofText (String.join texts)))
        (g.run (room + 1) (g.ofText (String.join texts))) [] = .finished (.error failure) u ∧
      -- values in a list, and side by side
      g.parseScript room listKind (literals texts) s =
        .finished (.error (.ofReason (s.location.advance (String.join front).toList) reason)) t ∧
      g.parseScript room tupleKind (literalTuple texts) s =
        .finished (.error (.ofReason (s.location.advance (String.join front).toList) reason)) t ∧
      t.location = s.location ∧ t.rest = s.rest ∧
      -- the stages that are invoked
      g.invoked room (literals texts) (s.entered []) = (front ++ [next]).map g.ofText ∧
      g.invoked room (literalTuple texts) (s.entered []) = (front ++ [next]).map g.ofText) := by
  have hfits := hs.fits hfresh
  obtain ⟨hadmits, below, rfl, hentered, hadmits'⟩ := hs.two_levels hfresh hlevels
  rcases Text.begins_join_or texts s.rest with
    ⟨rest, hrest⟩ | ⟨front, next, behind, rest, htexts, hrest, hnext⟩
  · left
    have htakes := Token.takes_literal (String.join texts) rest
    rw [← hrest] at htakes
    obtain ⟨u, hwhole, hu, hurest⟩ := call_token_takes (g := g) hfits hadmits [] htakes .parse
    have hplace := hu.place_eq (hrest.trans (congrArg _ hurest.symm))
    obtain ⟨v, hrun, hv, hvrest⟩ := literals_ok (g := g) hentered hadmits' hrest
    have hread : s.rest = (String.join texts).toList ++ v.rest := by rw [hrest, hvrest]
    have hrow := hrun
    rw [literals_eq] at hrow
    obtain ⟨row, hvalues, htuple⟩ := run_of_map_ok hrow
    refine ⟨rest, row, _, u, hrest, hwhole, hplace, hurest,
      parseScript_ok hadmits hrun hread _, ?_, hvrest, parseScript_ok hadmits htuple hread _,
      hvalues⟩
    exact (hv.place_eq hread).trans hplace.symm
  · right
    have hnot : ¬ (String.join texts).toList <+: s.rest := by
      rw [htexts, hrest]
      exact Text.not_begins_join hnext
    obtain ⟨wholeReason, -, hwholeRead⟩ :=
      Token.reading_literal_refused (Text.isPrefixOf_eq_false hnot)
    obtain ⟨u, hwhole, -, -⟩ := call_token_error (g := g) hfits hadmits [] hwholeRead .parse
    obtain ⟨reason, -, hread⟩ :=
      Token.reading_literal_refused (Text.isPrefixOf_eq_false hnext)
    obtain ⟨v, hrun, hinvoked⟩ :=
      literals_error (g := g) hentered hadmits' behind hrest hread
    rw [← htexts] at hrun hinvoked
    have hrow := hrun
    have hinvokedRow := hinvoked
    rw [literals_eq] at hrow hinvokedRow
    rw [invoked_map] at hinvokedRow
    exact ⟨front, next, behind, rest, reason, _, u, _, htexts, hrest, hnext, hread, hnot, hwhole,
      parseScript_error hadmits hrun _, parseScript_error hadmits (run_of_map_error hrow) _, rfl,
      rfl, hinvoked, hinvokedRow⟩

/-- Three literals behind a first character, one of them empty and one over the end of a line. -/
theorem literals_concatenate_over_line :
    let g := Session.grammar []
    let first := (Scanner.ofString "xé\nab" {}).withLog
    let s : Scanner := { first with rest := ['é', '\n', 'a', 'b'], location := ⟨1, 1, 1⟩ }
    let texts := ["é", "", "\na"]
    first.Fresh ∧ g.Reachable first 513 s ∧ s.depth + 2 ≤ min s.limits.maxDepth unlimited ∧
      ∃ (row : Row (fun _ => String) texts) (t : Scanner),
        g.parseScript 512 (Session.Term.literals texts).kind (literals texts) s =
          .finished (.ok texts) (t.note
            ("+ " ++ (Session.Term.literals texts).kind ++ " " ++
              Text.quoted (String.join texts))) ∧
        g.parseScript 512 (Session.Term.literalTuple texts).kind (literalTuple texts) s =
          .finished (.ok row) (t.note
            ("+ " ++ (Session.Term.literalTuple texts).kind ++ " " ++
              Text.quoted (String.join texts))) ∧
        row.toList (fun _ => id) = texts ∧ t.location = ⟨5, 2, 1⟩ := by
  intro g first s texts
  have hfresh : first.Fresh := ⟨"xé\nab", {}, Or.inr rfl⟩
  have hmove : (Script.move 1 : Script g.Yield Unit).run g.kindOf (g.run 513) first =
      .finished (.ok ()) s := rfl
  have hs : g.Reachable first 513 s := .run .start (Script.move 1) hmove
  have hlevels : s.depth + 2 ≤ min s.limits.maxDepth unlimited := by decide
  refine ⟨hfresh, hs, hlevels, ?_⟩
  rcases literals_concatenate g hfresh hs hlevels texts (Session.Term.literals texts).kind
      (Session.Term.literalTuple texts).kind with
    ⟨rest, row, t, u, -, -, hplace, -, hlist, ht, -, htuple, hrow⟩ |
    ⟨-, -, -, -, -, -, -, -, -, -, -, -, hnot, -⟩
  · exact ⟨row, t, hlist, htuple, hrow, ht.trans (hplace.trans (by decide))⟩
  · exact absurd ⟨['b'], by decide⟩ hnot

/-- Where a log is kept, the scanner behind values side by side is not the one behind the same
values in a list. -/
theorem literalTuple_logs_its_kind :
    let g := Session.grammar []
    let s := (Scanner.ofString "ab" {}).withLog
    let texts := ["a", "b"]
    s.Fresh ∧ g.Reachable s 513 s ∧ s.depth + 2 ≤ min s.limits.maxDepth unlimited ∧
      ∃ (row : Row (fun _ => String) texts) (t u : Scanner),
        g.parseScript 512 (Session.Term.literals texts).kind (literals texts) s =
          .finished (.ok texts) t ∧
        g.parseScript 512 (Session.Term.literalTuple texts).kind (literalTuple texts) s =
          .finished (.ok row) u ∧
        row.toList (fun _ => id) = texts ∧ t ≠ u := by
  intro g s texts
  have hfresh : s.Fresh := ⟨"ab", {}, Or.inr rfl⟩
  have hlevels : s.depth + 2 ≤ min s.limits.maxDepth unlimited := by decide
  have hs : g.Reachable s 513 s := .start
  obtain ⟨hadmits, below, hbelow, hentered, hadmits'⟩ := hs.two_levels hfresh hlevels
  obtain rfl : below = 511 := (Nat.succ.inj hbelow).symm
  have hjoin : (s.entered []).rest = (String.join texts).toList ++ [] := by decide
  obtain ⟨v, hrun, hv, hrest⟩ := literals_ok (g := g) hentered hadmits' hjoin
  have hread : s.rest = ['a', 'b'] ++ v.rest := by
    rw [hrest]
    rfl
  have hrow := hrun
  rw [literals_eq] at hrow
  obtain ⟨row, hvalues, htuple⟩ := run_of_map_ok hrow
  refine ⟨hfresh, hs, hlevels, row, _, _, parseScript_ok hadmits hrun hread _,
    parseScript_ok hadmits htuple hread _, hvalues, fun hsame => ?_⟩
  have hlogging : (s.parsed v).isLogging = true := hv.frame.logging
  have hlines := Scanner.note_injective hlogging hsame
  rw [String.append_left_inj, String.append_left_inj, String.append_right_inj] at hlines
  exact absurd hlines (by decide)

end Descent
