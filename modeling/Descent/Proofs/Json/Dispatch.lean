import Descent.Proofs.Json.Lexemes

/-!
How the rule for values tells values apart. What may stand behind a value does not go on with a
numeral, and what a value begins with shows its kind: a mark, or else a number or a constant. The
rules for numbers and texts read what numerals and texts in quotes spell.
-/
namespace Descent.Json

open Script
open Text (Avoids)

/-- What may stand behind a value. -/
def Follows (rest : List Char) : Prop :=
  ∀ c ∈ rest.head?, isSpace c = true ∨ c ∈ [',', ']', '\x7d']

namespace Follows

theorem nil : Follows [] := by
  intro c hc
  cases hc

theorem mark {c : Char} (h : c ∈ [',', ']', '\x7d']) (cs : List Char) : Follows (c :: cs) := by
  intro d hd
  cases hd
  exact Or.inr h

theorem blanks (b : Blanks) {rest : List Char} (h : Follows rest) : Follows (b.text ++ rest) := by
  intro c hc
  cases htext : b.text with
  | nil =>
    rw [htext] at hc
    exact h c hc
  | cons d ds =>
    rw [htext] at hc
    cases hc
    exact Or.inl (b.all c (by rw [htext]; exact List.mem_cons_self))

theorem avoids {p : Char → Bool} {rest : List Char} (h : Follows rest)
    (hvisible : ∀ c, p c = true → 0x21 ≤ c.toNat ∧ c.toNat < 0x7f)
    (hmarks : ∀ c ∈ [',', ']', '\x7d'], p c = false) : Avoids p rest := by
  intro c hc
  rcases h c hc with hspace | hmark
  · refine Bool.eq_false_iff.mpr fun hp => ?_
    obtain ⟨hlow, hhigh⟩ := hvisible c hp
    rw [isSpace_eq_false hlow hhigh] at hspace
    cases hspace
  · exact hmarks c hmark

theorem avoids_isDigit {rest : List Char} (h : Follows rest) : Avoids Char.isDigit rest := by
  refine h.avoids (fun c hc => ?_) (Text.forall_of_all (by decide))
  obtain ⟨hlow, hhigh⟩ := Char.isDigit_iff_toNat.mp hc
  exact ⟨Nat.le_trans (by decide) hlow, Nat.lt_of_le_of_lt hhigh (by decide)⟩

theorem avoids_point {rest : List Char} (h : Follows rest) : Avoids (· == '.') rest := by
  refine h.avoids (fun c hc => ?_) (Text.forall_of_all (by decide))
  rw [beq_iff_eq.mp hc]
  decide

theorem avoids_powerMark {rest : List Char} (h : Follows rest) : Avoids isPowerMark rest := by
  refine h.avoids (fun c hc => ?_) (Text.forall_of_all (by decide))
  have hvisible : ∀ c ∈ ['e', 'E'], 0x21 ≤ c.toNat ∧ c.toNat < 0x7f :=
    Text.forall_of_all (by decide)
  exact hvisible c (List.contains_iff_mem.mp hc)

end Follows

/-- What a value can begin with. -/
def isOpening (c : Char) : Bool := ['"', '\x7b', '[', 't', 'f', 'n'].contains c || startsNumeral c

theorem isOpening_visible {c : Char} (h : isOpening c = true) :
    0x21 ≤ c.toNat ∧ c.toNat < 0x7f ∧ c ≠ ']' := by
  have hmarks : ∀ c ∈ ['"', '\x7b', '[', 't', 'f', 'n', '-'],
      0x21 ≤ c.toNat ∧ c.toNat < 0x7f ∧ c ≠ ']' := Text.forall_of_all (by decide)
  rcases Bool.or_eq_true_iff.mp h with hmark | hstart
  · exact hmarks c (List.mem_append_left ['-'] (List.contains_iff_mem.mp hmark))
  · rcases Bool.or_eq_true_iff.mp hstart with hminus | hdigit
    · rw [beq_iff_eq.mp hminus]
      exact hmarks '-' (by decide)
    · obtain ⟨hlow, hhigh⟩ := Char.isDigit_iff_toNat.mp hdigit
      refine ⟨Nat.le_trans (by decide) hlow, Nat.lt_of_le_of_lt hhigh (by decide), ?_⟩
      rintro rfl
      cases hdigit

theorem Numeral.exists_cons (n : Numeral) :
    ∃ c cs, n.text = c :: cs ∧ startsNumeral c = true := by
  unfold text
  cases n.negative with
  | true => exact ⟨'-', _, rfl, rfl⟩
  | false =>
    obtain ⟨c, cs, hdigits⟩ := List.exists_cons_of_ne_nil n.whole.nonempty
    have hc := n.whole.all c (by rw [hdigits]; exact List.mem_cons_self)
    refine ⟨c, cs ++ (Decimal.fractionText n.fraction ++ n.powerText), ?_, ?_⟩
    · rw [hdigits]
      rfl
    · rw [startsNumeral, hc, Bool.or_true]

theorem Tree.exists_cons (t : Tree) : ∃ c cs, t.spelling = c :: cs ∧ isOpening c = true := by
  cases t with
  | constant word value h =>
    simp only [constants, List.mem_cons, Prod.mk.injEq, List.not_mem_nil, or_false] at h
    rcases h with ⟨rfl, -⟩ | ⟨rfl, -⟩ | ⟨rfl, -⟩
    · exact ⟨'t', _, rfl, rfl⟩
    · exact ⟨'f', _, rfl, rfl⟩
    · exact ⟨'n', _, rfl, rfl⟩
  | number n =>
    obtain ⟨c, cs, htext, hstart⟩ := n.exists_cons
    exact ⟨c, cs, htext, by rw [isOpening, hstart, Bool.or_true]⟩
  | text q => exact ⟨'"', _, rfl, rfl⟩
  | emptyArray inner => exact ⟨'[', _, rfl, rfl⟩
  | array before items => exact ⟨'[', _, rfl, rfl⟩
  | emptyObject inner => exact ⟨'\x7b', _, rfl, rfl⟩
  | object before entries => exact ⟨'\x7b', _, rfl, rfl⟩

theorem Tree.avoids_isSpace (t : Tree) (rest : List Char) :
    Avoids isSpace (t.spelling ++ rest) := by
  obtain ⟨c, cs, hspelling, hopening⟩ := t.exists_cons
  obtain ⟨hlow, hhigh, -⟩ := isOpening_visible hopening
  rw [hspelling]
  exact Text.avoids_cons (isSpace_eq_false hlow hhigh) _

variable {room : Nat} {s : Scanner} {rest : List Char}

section Leaves

theorem numberBody_yields (n : Numeral) (hs : s.Allows room 1) (hrest : s.rest = n.text ++ rest)
    (hfollows : Follows rest) :
    (numberBody.run grammar.kindOf (grammar.run room) s).Yields n.value rest := by
  have htakes : (Token.pattern numberPattern).Takes s.rest (String.ofList n.text) rest := by
    rw [hrest]
    exact takes_numeral n hfollows.avoids_isDigit hfollows.avoids_point hfollows.avoids_powerMark
  obtain ⟨u, hcall, -, hu⟩ := Grammar.call_takes (g := grammar) hs [] htakes .parse
  have hread : Decimal.readFloat? (String.ofList n.text).toList = some n.value := by
    rw [String.toList_ofList]
    exact (Option.some_get _).symm
  refine ⟨u, (run_attempt hcall).trans ?_, hu⟩
  dsimp only
  rw [hread]
  rfl

theorem numberBody_fails {height : Nat} (hs : s.Allows room height)
    (h : Avoids startsNumeral s.rest) :
    (numberBody.run grammar.kindOf (grammar.run room) s).Fails := by
  obtain ⟨failure, u, hcall, -, -⟩ :=
    Grammar.call_refused (g := grammar) hs [] (refuses_numeral h) .parse
  exact ⟨_, u, run_call hcall⟩

/-- The result that the body of a text in quotes comes to, at the place behind it. -/
def readBody (behind : Position) (raw : List Char) : Except Failure String :=
  ((Escape.decode raw).map String.ofList).mapError fun e => ⟨behind, e.message, none⟩

/-- What is left of the rule for texts in quotes behind the body. -/
def closeText (raw : List Char) : Script Yield String :=
  match Escape.decode raw with
  | .error e => fail e.message
  | .ok text => do
    if ← succeeds (lit "\"") then return String.ofList text
    else fail "invalid character in string literal"

/-- What is said of a text that goes on with neither a stroke nor the quote that closes it. -/
def unclosed (place : Position) (reason : Reason) : Failure :=
  ⟨place, "invalid character in string literal", some (.ofReason place reason)⟩

/-- The rule for texts in quotes reads all strokes that stand next before it decodes them. -/
theorem stringBody_reads (hs : s.Allows room 1) (strokes : List Stroke)
    (hend : strokeNode.munch rest = none)
    (hrest : s.rest = '"' :: (strokes.flatMap Stroke.text ++ rest)) :
    ∃ v, s.Onward v ∧ v.rest = rest ∧
      v.location = s.location.advance ('"' :: strokes.flatMap Stroke.text) ∧
      v.lastFailure = none ∧
      stringBody.run grammar.kindOf (grammar.run room) s =
        (closeText (strokes.flatMap Stroke.text)).run grammar.kindOf (grammar.run room) v := by
  have hopening : s.rest = "\"".toList ++ (strokes.flatMap Stroke.text ++ rest) := hrest
  obtain ⟨u, hopen, hu, huRest⟩ := Grammar.call_literal (g := grammar) hs hopening .parse
  have huRest : u.rest = strokes.flatMap Stroke.text ++ rest := huRest
  have htakes := takes_strokes_before strokes hend
  rw [← huRest] at htakes
  obtain ⟨v, hbody, hv, hvRest⟩ :=
    Grammar.call_takes (g := grammar) (hu.frame.allows hs) [] htakes .parse
  have hvRest : v.rest = rest := hvRest
  refine ⟨v, hu.trans hv, hvRest, ?_, ?_, ?_⟩
  · obtain ⟨front, hfront, hplace⟩ := (hu.trans hv).passed
    have hwhole : s.rest = ('"' :: strokes.flatMap Stroke.text) ++ v.rest := by
      rw [hrest, hvRest]
      rfl
    rw [hplace, List.append_cancel_right (hfront.symm.trans hwhole)]
  · exact Scanner.lastFailure_of_call_ok hbody
  · have hrun : stringBody.run grammar.kindOf (grammar.run room) s =
        (closeText (String.ofList (strokes.flatMap Stroke.text)).toList).run grammar.kindOf
          (grammar.run room) v := (run_call hopen).trans (run_parse hbody)
    rw [hrun, String.toList_ofList]

/-- The rule for texts in quotes does what the decoder does with the body. -/
theorem stringBody_run (hs : s.Allows room 1) (strokes : List Stroke)
    (hrest : s.rest = '"' :: (strokes.flatMap Stroke.text ++ '"' :: rest)) :
    ∃ u, stringBody.run grammar.kindOf (grammar.run room) s = .finished
        (readBody (s.location.advance ('"' :: strokes.flatMap Stroke.text))
          (strokes.flatMap Stroke.text)) u ∧
      ∀ text, Escape.decode (strokes.flatMap Stroke.text) = .ok text → u.rest = rest := by
  obtain ⟨v, honward, hvRest, hlocation, hfailure, hrun⟩ :=
    stringBody_reads hs strokes (munch_strokeNode_quote rest) hrest
  rw [hrun, closeText, readBody]
  cases Escape.decode (strokes.flatMap Stroke.text) with
  | error e =>
    refine ⟨v, ?_, fun text h => by cases h⟩
    change Outcome.finished (.error ⟨v.location, e.message, v.lastFailure⟩) v = _
    rw [hlocation, hfailure]
    rfl
  | ok text =>
    have hclosing : v.rest = "\"".toList ++ rest := hvRest
    obtain ⟨w, hclose, -, hw⟩ :=
      Grammar.call_literal (g := grammar) (honward.frame.allows hs) hclosing .parse
    exact ⟨w, run_call hclose, fun _ _ => hw⟩

theorem stringBody_yields (q : Quoted) (hs : s.Allows room 1) (hrest : s.rest = q.text ++ rest) :
    (stringBody.run grammar.kindOf (grammar.run room) s).Yields q.value rest := by
  have hbody : q.body = (q.pieces.flatMap Piece.strokes).flatMap Stroke.text :=
    strokes_of_pieces q.pieces
  have hdecode : Escape.decode q.body = .ok (q.pieces.map Piece.char) :=
    Escape.decode_pieces q.pieces
  have htext : s.rest = '"' :: (q.body ++ '"' :: rest) := by
    rw [hrest, Quoted.text]
    simp
  rw [hbody] at htext hdecode
  obtain ⟨u, hrun, hu⟩ := stringBody_run hs _ htext
  refine ⟨u, hrun.trans ?_, hu _ hdecode⟩
  rw [readBody, hdecode]
  rfl

theorem constantFrom_yields {height : Nat} (hs : s.Allows room (height + 1)) {word : String}
    {value : Value} {entries : List (String × Value)} (hentry : (word, value) ∈ entries)
    (hrest : s.rest = word.toList ++ rest)
    (hothers : ∀ entry ∈ entries, entry = (word, value) ∨
      entry.1.toList.isPrefixOf (word.toList ++ rest) = false) :
    ((constantFrom entries).run grammar.kindOf (grammar.run room) s).Yields value rest := by
  induction entries generalizing s with
  | nil => cases hentry
  | cons entry entries ih =>
    rcases hothers entry List.mem_cons_self with rfl | hother
    · obtain ⟨u, hcall, -, hu⟩ := Grammar.call_literal (g := grammar) hs hrest .parse
      exact ⟨u, run_call hcall, hu⟩
    · have hrefused : entry.1.toList.isPrefixOf s.rest = false := by
        rw [hrest]
        exact hother
      obtain ⟨failure, u, hcall, honward, hu⟩ :=
        Grammar.call_literal_refused (g := grammar) hs hrefused .parse
      have hmem : (word, value) ∈ entries := by
        rcases List.mem_cons.mp hentry with rfl | hmem
        · rw [show (word.toList.isPrefixOf (word.toList ++ rest)) = true by simp] at hother
          cases hother
        · exact hmem
      obtain ⟨v, hrun, hv⟩ := ih (honward.frame.allows hs) hmem (hu.trans hrest)
        fun entry hentry => hothers entry (List.mem_cons_of_mem _ hentry)
      exact ⟨v, (run_call hcall).trans hrun, hv⟩

end Leaves

section Dispatch

variable {before : Blanks} (hrest : s.rest = before.text ++ rest) (hspace : Avoids isSpace rest)

include hrest hspace

/-- Behind its blanks, a value that begins with none of the marks is a number or a constant. -/
theorem valueBody_unmarked {height : Nat} (hs : s.Allows room (height + 1))
    (hmarks : ∀ mark ∈ ["\"", "\x7b", "["], mark.toList.isPrefixOf rest = false) :
    ∃ u, s.Onward u ∧ u.rest = rest ∧ valueBody.run grammar.kindOf (grammar.run room) s =
      (attempt (.rule .number) [] >>= fun
        | .ok x => pure (.number x)
        | .error _ => constantFrom constants : Script Yield Value).run
        grammar.kindOf (grammar.run room) u := by
  obtain ⟨skipped, t, hskip, htOnward, ht⟩ := skip_blanks hs before hrest hspace
  have hother : ∀ u : Scanner, u.rest = rest → ∀ mark ∈ ["\"", "\x7b", "["],
      mark.toList.isPrefixOf u.rest = false := by
    intro u hu mark hmark
    rw [hu]
    exact hmarks mark hmark
  obtain ⟨_, u, hquote, huOnward, hu⟩ := Grammar.call_literal_refused (g := grammar)
    (htOnward.frame.allows hs) (hother t ht "\"" (by decide)) .peek
  rw [ht] at hu
  have htu := htOnward.trans huOnward
  obtain ⟨_, v, hbrace, hvOnward, hv⟩ := Grammar.call_literal_refused (g := grammar)
    (htu.frame.allows hs) (hother u hu "\x7b" (by decide)) .peek
  rw [hu] at hv
  have htv := htu.trans hvOnward
  obtain ⟨_, w, hbracket, hwOnward, hw⟩ := Grammar.call_literal_refused (g := grammar)
    (htv.frame.allows hs) (hother v hv "[" (by decide)) .peek
  rw [hv] at hw
  refine ⟨w, htv.trans hwOnward, hw, ?_⟩
  exact (run_call hskip).trans ((run_call hquote).trans ((run_call hbrace).trans
    (run_call hbracket)))

theorem valueBody_text {height : Nat} (hs : s.Allows room (height + 1)) {cs : List Char}
    (hmark : rest = '"' :: cs) :
    ∃ u, s.Onward u ∧ u.rest = rest ∧ valueBody.run grammar.kindOf (grammar.run room) s =
      (parse (.rule .string) >>= fun text => pure (.text text) : Script Yield Value).run
        grammar.kindOf (grammar.run room) u := by
  obtain ⟨skipped, t, hskip, htOnward, ht⟩ := skip_blanks hs before hrest hspace
  have hquote : t.rest = "\"".toList ++ cs := ht.trans hmark
  obtain ⟨u, hsees, huOnward, hu⟩ :=
    Grammar.call_literal (g := grammar) (htOnward.frame.allows hs) hquote .peek
  exact ⟨u, htOnward.trans huOnward, hu.trans ht, (run_call hskip).trans (run_call hsees)⟩

theorem valueBody_object {height : Nat} (hs : s.Allows room (height + 1)) {cs : List Char}
    (hmark : rest = '\x7b' :: cs) :
    ∃ u, s.Onward u ∧ u.rest = rest ∧ valueBody.run grammar.kindOf (grammar.run room) s =
      (parse (.rule .object) >>= fun members => pure (.object members) : Script Yield Value).run
        grammar.kindOf (grammar.run room) u := by
  obtain ⟨skipped, t, hskip, htOnward, ht⟩ := skip_blanks hs before hrest hspace
  have htAllows := htOnward.frame.allows hs
  have hother : "\"".toList.isPrefixOf t.rest = false := by
    rw [ht, hmark]
    rfl
  obtain ⟨_, u, hquote, huOnward, hu⟩ :=
    Grammar.call_literal_refused (g := grammar) htAllows hother .peek
  have hbrace : u.rest = "\x7b".toList ++ cs := (hu.trans ht).trans hmark
  obtain ⟨v, hsees, hvOnward, hv⟩ :=
    Grammar.call_literal (g := grammar) (huOnward.frame.allows htAllows) hbrace .peek
  refine ⟨v, (htOnward.trans huOnward).trans hvOnward, (hv.trans hu).trans ht, ?_⟩
  exact (run_call hskip).trans ((run_call hquote).trans (run_call hsees))

theorem valueBody_array {height : Nat} (hs : s.Allows room (height + 1)) {cs : List Char}
    (hmark : rest = '[' :: cs) :
    ∃ u, s.Onward u ∧ u.rest = rest ∧ valueBody.run grammar.kindOf (grammar.run room) s =
      (parse (.rule .array) >>= fun items => pure (.array items) : Script Yield Value).run
        grammar.kindOf (grammar.run room) u := by
  obtain ⟨skipped, t, hskip, htOnward, ht⟩ := skip_blanks hs before hrest hspace
  have htAllows := htOnward.frame.allows hs
  have hother : ∀ mark ∈ ["\"", "\x7b"], ∀ u : Scanner, u.rest = rest →
      mark.toList.isPrefixOf u.rest = false := by
    intro mark hmem u hu
    rw [hu, hmark]
    simp only [List.mem_cons, List.not_mem_nil, or_false] at hmem
    rcases hmem with rfl | rfl
    · rfl
    · rfl
  obtain ⟨_, u, hquote, huOnward, hu⟩ :=
    Grammar.call_literal_refused (g := grammar) htAllows (hother "\"" (by decide) t ht) .peek
  rw [ht] at hu
  have huAllows := huOnward.frame.allows htAllows
  obtain ⟨_, v, hbrace, hvOnward, hv⟩ :=
    Grammar.call_literal_refused (g := grammar) huAllows (hother "\x7b" (by decide) u hu) .peek
  rw [hu] at hv
  have hbracket : v.rest = "[".toList ++ cs := hv.trans hmark
  obtain ⟨w, hsees, hwOnward, hw⟩ :=
    Grammar.call_literal (g := grammar) (hvOnward.frame.allows huAllows) hbracket .peek
  refine ⟨w, ((htOnward.trans huOnward).trans hvOnward).trans hwOnward, hw.trans hv, ?_⟩
  exact (run_call hskip).trans ((run_call hquote).trans ((run_call hbrace).trans
    (run_call hsees)))

end Dispatch

/-- A value of a kind that its first character tells is what the rule for this kind yields. -/
theorem valueBody_yields_kind {t v : Scanner} {r : Rule} {wrap : Yield r → Value}
    {result : Yield r} {height : Nat} (ht : t.Allows room (height + 1))
    (hrun : valueBody.run grammar.kindOf (grammar.run room) v =
      (parse (.rule r) >>= fun x => pure (wrap x) : Script Yield Value).run
        grammar.kindOf (grammar.run room) t)
    (hbody : ∀ levels, (t.entered []).Allows levels height →
      ((body r).run grammar.kindOf (grammar.run levels) (t.entered [])).Yields result rest) :
    (valueBody.run grammar.kindOf (grammar.run room) v).Yields (wrap result) rest := by
  obtain ⟨u, hcall, -, hu⟩ := Grammar.call_yields (g := grammar) (c := .rule r) ht [] hbody .parse
  refine ⟨u, ?_, hu⟩
  rw [hrun]
  exact run_call hcall

end Descent.Json
