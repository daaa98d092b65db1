import Descent.Proofs.Json.Bounds
import Descent.Proofs.Refusal

/-!
Documents that nest too deeply. Where a derivation does not fit under the bound, the run reads
what stands in front of the place that does not fit and fails there. The failure says that the
bound was exceeded, unless that place is a number whose digits alone lie beyond the bound: then
the constants are still tried in its place, and what is on record is how the last of them failed.
-/
namespace Descent.Json

open Script
open Text (Avoids)

mutual

/-- The numbers of a derivation, each with the arrays and objects that it stands in and with the
text from it on. The derivation itself stands in `level` of them, and `behind` follows it. -/
def Tree.numbers (level : Nat) (behind : List Char) : Tree → List (Nat × List Char)
  | .number n => [(level, n.text ++ behind)]
  | .array _ items => items.numbers (level + 1) (']' :: behind)
  | .object _ entries => entries.numbers (level + 1) ('\x7d' :: behind)
  | .constant _ _ _ | .text _ | .emptyArray _ | .emptyObject _ => []

def Items.numbers (level : Nat) (behind : List Char) : Items → List (Nat × List Char)
  | .last item after => item.numbers level (after.text ++ behind)
  | .more item after before others =>
    item.numbers level (after.text ++ ',' :: (before.text ++ (others.spelling ++ behind))) ++
      others.numbers level behind

def Entries.numbers (level : Nat) (behind : List Char) : Entries → List (Nat × List Char)
  | .last _ _ _ item after => item.numbers level (after.text ++ behind)
  | .more _ _ _ item after before others =>
    item.numbers level (after.text ++ ',' :: (before.text ++ (others.spelling ++ behind))) ++
      others.numbers level behind

end

/-- How the last of the constants fails on a text that is none. -/
def lastReasons : List Reason := [.unexpectedEnd "null", .literalMismatch "null"]

/-- The failure of a value that is none of the constants. -/
def unparsed (location : Position) (reason : Reason) : Failure :=
  ⟨location, "unable to parse value", some (.ofReason location reason)⟩

/-- The failure says that the bound was exceeded; or it stands at one of the numbers, whose level
the bound just reaches, and says that no constant stands there. -/
def Blames (numbers : List (Nat × List Char)) (s : Scanner) (f : Failure) : Prop :=
  f.NamesBound s.limits.maxDepth ∨
    ∃ level front rest, ∃ reason ∈ lastReasons, (level, rest) ∈ numbers ∧
      s.limits.maxDepth = 2 * level + 2 ∧ s.rest = front ++ rest ∧
      f = unparsed (s.location.advance front) reason

/-- The outcome is a failure that the bound is to blame for. -/
abbrev Refused {α : Type} (numbers : List (Nat × List Char)) (s : Scanner) (o : Outcome α) :
    Prop :=
  o.FailsWith (Blames numbers s)

section Blame

variable {numbers numbers' : List (Nat × List Char)} {s t : Scanner} {f : Failure}

theorem Blames.mono (h : Blames numbers s f) (hsubset : ∀ n ∈ numbers, n ∈ numbers') :
    Blames numbers' s f := by
  rcases h with hbound | ⟨level, front, rest, reason, hreason, hmem, hlevel, hrest, hf⟩
  · exact Or.inl hbound
  · exact Or.inr ⟨level, front, rest, reason, hreason, hsubset _ hmem, hlevel, hrest, hf⟩

theorem Blames.behind (honward : s.Onward t) (h : Blames numbers t f) : Blames numbers s f := by
  rcases h with hbound | ⟨level, front, rest, reason, hreason, hmem, hlevel, hrest, hf⟩
  · left
    rw [← honward.frame.limits]
    exact hbound
  · obtain ⟨passed, hpassed, hlocation⟩ := honward.passed
    refine Or.inr ⟨level, passed ++ front, rest, reason, hreason, hmem, ?_, ?_, ?_⟩
    · rw [← honward.frame.limits]
      exact hlevel
    · rw [hpassed, hrest, List.append_assoc]
    · rw [hf, hlocation, Position.advance_append]

end Blame

variable {room : Nat} {s : Scanner}

section Bound

variable (hs : s.Ample room) (hbound : s.depth = s.limits.maxDepth)

include hs hbound

/-- At the bound nothing but the refusals is left of a rule that begins with a mark. -/
theorem opening_at_bound {α : Type} (word : String) (next : String → Script Yield α) :
    ((blanks >>= fun _ => parse (lit word) >>= next).run grammar.kindOf (grammar.run room)
      s).FailsWith (Failure.NamesBound s.limits.maxDepth) := by
  obtain ⟨t, honward, -, hrun⟩ := Grammar.skip_at_bound (g := grammar) hs hbound
    (.token (.pattern blankPattern)) fun _ => parse (lit word) >>= next
  have hlimits := honward.frame.limits
  obtain ⟨f, u, hfails, hf⟩ := Grammar.parse_at_bound (g := grammar) (honward.frame.ample hs)
    (honward.at_bound hbound) (lit word) next
  rw [hlimits] at hf
  exact ⟨f, u, hrun.trans hfails, hf⟩

theorem stringBody_at_bound :
    (stringBody.run grammar.kindOf (grammar.run room) s).FailsWith
      (Failure.NamesBound s.limits.maxDepth) :=
  Grammar.parse_at_bound (g := grammar) hs hbound (lit "\"") _

theorem numberBody_at_bound :
    (numberBody.run grammar.kindOf (grammar.run room) s).FailsWith
      (Failure.NamesBound s.limits.maxDepth) := by
  obtain ⟨u, hcall, -, -⟩ := Grammar.call_at_bound (g := grammar) hs hbound .parse
    (.token (.pattern numberPattern)) []
  have hrun : numberBody.run grammar.kindOf (grammar.run room) s =
      .finished (.error ⟨u.location, "not a valid number", u.lastFailure⟩) u := run_call hcall
  refine ⟨_, u, hrun, ?_⟩
  rw [Scanner.lastFailure_of_call hcall]
  exact (Failure.namesBound_tooDeep _ _).caused _ _

end Bound

/-- Where no constant can be read, the failure of the last one is the cause. -/
theorem constantFrom_fails (P : String → Failure → Prop) {words : List (String × Value)}
    (last : String × Value) (hlast : words.getLast? = some last) (hs : s.Fits room)
    (h : ∀ entry ∈ words, ∀ t, s.Onward t → t.rest = s.rest → ∃ failure u,
      t.call .parse (grammar.kindOf (lit entry.1)) (grammar.run room (lit entry.1)) [] =
        .finished (.error failure) u ∧ P entry.1 failure) :
    ((constantFrom words).run grammar.kindOf (grammar.run room) s).FailsWith fun f =>
      ∃ cause, P last.1 cause ∧ f = ⟨s.location, "unable to parse value", some cause⟩ := by
  induction words generalizing s with
  | nil => cases hlast
  | cons entry others ih =>
    obtain ⟨failure, u, hcall, hfailure⟩ := h entry List.mem_cons_self s (.refl s) rfl
    obtain ⟨honward, hrest⟩ := Grammar.call_failed (g := grammar) hs hcall
    have hlocation := honward.location_eq hrest
    cases others with
    | nil =>
      cases hlast
      have hrun : (constantFrom [entry]).run grammar.kindOf (grammar.run room) s =
          .finished (.error ⟨u.location, "unable to parse value", u.lastFailure⟩) u :=
        run_call hcall
      refine ⟨_, u, hrun, failure, hfailure, ?_⟩
      rw [hlocation, Scanner.lastFailure_of_call hcall]
    | cons second others =>
      obtain ⟨f, v, hrun, cause, hcause, hf⟩ := ih hlast (honward.frame.fits hs)
        fun entry hentry t ht hrest' => h entry (List.mem_cons_of_mem _ hentry) t
          (honward.trans ht) (hrest'.trans hrest)
      refine ⟨f, v, (run_call hcall).trans hrun, cause, hcause, ?_⟩
      rw [hf, hlocation]

/-- At the bound a value tries all that it could be, and everything is refused. -/
theorem valueBody_at_bound (hs : s.Ample room) (hbound : s.depth = s.limits.maxDepth) :
    (valueBody.run grammar.kindOf (grammar.run room) s).FailsWith
      (Failure.NamesBound s.limits.maxDepth) := by
  obtain ⟨t, hskip, ht, -⟩ := Grammar.call_at_bound (g := grammar) hs hbound .skip
    (.token (.pattern blankPattern)) []
  obtain ⟨u, hquote, hu, -⟩ := Grammar.call_at_bound (g := grammar) (ht.frame.ample hs)
    (ht.at_bound hbound) .peek (lit "\"") []
  have htu := ht.trans hu
  obtain ⟨v, hbrace, hv, -⟩ := Grammar.call_at_bound (g := grammar) (htu.frame.ample hs)
    (htu.at_bound hbound) .peek (lit "\x7b") []
  have htv := htu.trans hv
  obtain ⟨w, hbracket, hw, -⟩ := Grammar.call_at_bound (g := grammar) (htv.frame.ample hs)
    (htv.at_bound hbound) .peek (lit "[") []
  have htw := htv.trans hw
  obtain ⟨x, hnumber, hx, -⟩ := Grammar.call_at_bound (g := grammar) (htw.frame.ample hs)
    (htw.at_bound hbound) .parse (.rule .number) []
  have htx := htw.trans hx
  have hrun : valueBody.run grammar.kindOf (grammar.run room) s =
      (constantFrom constants).run grammar.kindOf (grammar.run room) x :=
    (run_call hskip).trans ((run_call hquote).trans ((run_call hbrace).trans
      ((run_call hbracket).trans (run_call hnumber))))
  rw [hrun]
  have hlast : constants.getLast? = some ("null", .null) := rfl
  have hfails := constantFrom_fails (fun _ f => f.NamesBound s.limits.maxDepth) _ hlast
    (htx.frame.fits hs.fits) fun entry _ y hy _ => by
      have hsy := htx.trans hy
      obtain ⟨z, hcall, -, -⟩ := Grammar.call_at_bound (g := grammar) (hsy.frame.ample hs)
        (hsy.at_bound hbound) .parse (lit entry.1) []
      refine ⟨_, z, hcall, ?_⟩
      rw [hsy.frame.limits]
      exact Failure.namesBound_tooDeep _ _
  refine hfails.imp fun f h => ?_
  obtain ⟨cause, hcause, rfl⟩ := h
  exact hcause.caused _ _

/-- A value whose first character tells its kind fails as the rule for this kind does. -/
theorem valueBody_failsWith_kind {r : Rule} {wrap : Yield r → Value} {text : List Char}
    {P : Scanner → Failure → Prop} (hs : s.Ample room) (hadmits : s.depth + 1 ≤ s.limits.maxDepth)
    (hdispatch : s.Allows room (0 + 1) → ∃ u, s.Onward u ∧ u.rest = text ∧
      valueBody.run grammar.kindOf (grammar.run room) s =
        (parse (.rule r) >>= fun x => pure (wrap x) : Script Yield Value).run
          grammar.kindOf (grammar.run room) u)
    (hbody : ∀ levels t, t.Ample levels → t.depth = s.depth + 1 → t.limits = s.limits →
      t.rest = text → ((body r).run grammar.kindOf (grammar.run levels) t).FailsWith (P t))
    (hbehind : ∀ u f, s.Onward u → P (u.entered []) f → P s f) :
    (valueBody.run grammar.kindOf (grammar.run room) s).FailsWith (P s) := by
  obtain ⟨u, honward, hu, hrun⟩ := hdispatch (hs.allows hadmits)
  have hdepth := honward.frame.depth
  have hlimits := honward.frame.limits
  have hentered : (u.entered []).limits = s.limits := hlimits
  have hfails := Grammar.parse_failsWith (g := grammar) (c := .rule r) (honward.frame.ample hs)
    (by rw [hdepth, hlimits]; exact hadmits)
    (fun levels hample hdown => hbody levels _ hample (by rw [hdown, hdepth]) hentered hu)
    fun x => pure (wrap x)
  rw [hrun]
  exact hfails.imp fun f hf => hbehind u f honward hf

/-- Where the derivation does not fit under the bound, the rule for values fails, and the bound is
to blame. -/
def Tree.TooDeep (t : Tree) : Prop :=
  ∀ ⦃room : Nat⦄ ⦃s : Scanner⦄ ⦃before : Blanks⦄ ⦃rest : List Char⦄ (level : Nat),
    s.Ample room → s.depth = 2 * level + 1 → s.depth ≤ s.limits.maxDepth →
    s.limits.maxDepth < s.depth + t.need 0 → s.rest = before.text ++ (t.spelling ++ rest) →
    Follows rest →
    Refused (t.numbers level rest) s (valueBody.run grammar.kindOf (grammar.run room) s)

/-- The same of items, in an array whose own rule has all the levels that it takes. -/
def Items.TooDeep (items : Items) : Prop :=
  ∀ (sofar : List Value) ⦃rounds room : Nat⦄ ⦃s : Scanner⦄ ⦃before : Blanks⦄ ⦃rest : List Char⦄
    (level : Nat), s.Ample room → s.depth = 2 * level → s.depth + 1 ≤ s.limits.maxDepth →
    s.limits.maxDepth < s.depth + (items.need 0 + 1) →
    s.rest = before.text ++ (items.spelling ++ ']' :: rest) → s.rest.length < rounds →
    Refused (items.numbers level (']' :: rest)) s
      ((itemsFrom rounds sofar).run grammar.kindOf (grammar.run room) s)

/-- The same of entries, in an object whose own rule has all the levels that it takes. -/
def Entries.TooDeep (entries : Entries) : Prop :=
  ∀ (sofar : List (String × Value)) ⦃rounds room : Nat⦄ ⦃s : Scanner⦄ ⦃before : Blanks⦄
    ⦃rest : List Char⦄ (level : Nat), s.Ample room → s.depth = 2 * level →
    s.depth + 1 ≤ s.limits.maxDepth →
    s.limits.maxDepth < s.depth + max 2 (entries.need 0 + 1) →
    s.rest = before.text ++ (entries.spelling ++ '\x7d' :: rest) → s.rest.length < rounds →
    ((sofar ++ entries.members).map Prod.fst).Nodup →
    Refused (entries.numbers level ('\x7d' :: rest)) s
      ((membersFrom rounds ⟨sofar⟩).run grammar.kindOf (grammar.run room) s)

namespace Tree

theorem need_pos (t : Tree) : 0 < t.need 0 := by
  cases t with
  | constant | number | text | emptyArray | emptyObject => exact Nat.succ_pos _
  | array before items =>
    have hadd : items.need 2 = 2 + items.need 0 := items.need_add 2 0
    change 0 < items.need 2
    omega
  | object before entries =>
    change 0 < max 3 (entries.need 2)
    omega

theorem constants_refused_number (n : Numeral) (rest : List Char) :
    ∀ entry ∈ constants, entry.1.toList.isPrefixOf (n.text ++ rest) = false := by
  obtain ⟨c, cs, htext, hstart⟩ := n.exists_cons
  have hletter : ∀ d ∈ ['t', 'f', 'n'], ∀ ds, (d :: ds).isPrefixOf (n.text ++ rest) = false := by
    intro d hd ds
    have hnot : ∀ d ∈ ['t', 'f', 'n'], startsNumeral d = false := Text.forall_of_all (by decide)
    have hne : d ≠ c := by
      rintro rfl
      rw [hnot d hd] at hstart
      cases hstart
    rw [htext]
    simp [List.isPrefixOf, hne]
  intro entry hentry
  simp only [constants, List.mem_cons, List.not_mem_nil, or_false] at hentry
  rcases hentry with rfl | rfl | rfl
  · exact hletter 't' (by decide) _
  · exact hletter 'f' (by decide) _
  · exact hletter 'n' (by decide) _

/-- Where a level is left and no constant stands, each is tried and the last one is the cause. -/
theorem constants_unparsed {v : Scanner} (hv : v.Ample room)
    (hadmits : v.depth + 1 ≤ v.limits.maxDepth)
    (hnone : ∀ entry ∈ constants, entry.1.toList.isPrefixOf v.rest = false) :
    ((constantFrom constants).run grammar.kindOf (grammar.run room) v).FailsWith fun f =>
      ∃ reason ∈ lastReasons, f = unparsed v.location reason := by
  have hlast : constants.getLast? = some ("null", .null) := rfl
  have hfails := constantFrom_fails (fun word f =>
      ∃ reason ∈ [Reason.unexpectedEnd word, .literalMismatch word],
        f = .ofReason v.location reason) _ hlast hv.fits fun entry hentry t ht hrest => by
      have hprefix : entry.1.toList.isPrefixOf t.rest = false := by
        rw [hrest]
        exact hnone entry hentry
      obtain ⟨reason, hreason, hread⟩ := Token.reading_literal_refused hprefix
      have hlevel : t.depth + 1 ≤ t.limits.maxDepth := by
        rw [ht.frame.depth, ht.frame.limits]
        exact hadmits
      obtain ⟨w, hcall, -, -⟩ :=
        Grammar.call_refused_for (g := grammar) (ht.frame.ample hv) hlevel
        hread .parse
      refine ⟨_, w, hcall, reason, hreason, ?_⟩
      rw [ht.location_eq hrest]
  refine hfails.imp fun f h => ?_
  obtain ⟨cause, ⟨reason, hreason, rfl⟩, rfl⟩ := h
  exact ⟨reason, hreason, rfl⟩

/-- A number whose rule is entered at the bound: its digits are refused, and then the constants
where it stands. -/
theorem number_refused (n : Numeral) {before : Blanks} {rest : List Char}
    (hs : s.Ample room) (hlimit : s.limits.maxDepth = s.depth + 1)
    (hrest : s.rest = before.text ++ (n.text ++ rest)) :
    (valueBody.run grammar.kindOf (grammar.run room) s).FailsWith fun f =>
      ∃ front, ∃ reason ∈ lastReasons, s.rest = front ++ (n.text ++ rest) ∧
        f = unparsed (s.location.advance front) reason := by
  have hadmits : s.depth + 1 ≤ s.limits.maxDepth := Nat.le_of_eq hlimit.symm
  have hstep : ∀ {t : Scanner}, s.Onward t → t.depth + 1 ≤ t.limits.maxDepth := by
    intro t ht
    rw [ht.frame.depth, ht.frame.limits]
    exact hadmits
  have hallows : s.Allows room (0 + 1) := hs.allows hadmits
  obtain ⟨u, honward, hu, hrun⟩ := valueBody_unmarked hrest ((number n).avoids_isSpace rest)
    hallows (unmarked_number n rest)
  have hlimits : (u.entered []).limits = s.limits := honward.frame.limits
  obtain ⟨failure, v, hnumber, -⟩ := Grammar.call_failsWith (g := grammar) (c := .rule .number)
    (honward.frame.ample hs) (hstep honward) []
    (fun levels hentered hdown => numberBody_at_bound hentered (by
      rw [hdown, honward.frame.depth, hlimits, hlimit])) .parse
  obtain ⟨hv, hvRest⟩ := Grammar.call_failed (g := grammar) (honward.frame.fits hs.fits) hnumber
  have hsv := honward.trans hv
  have hrest' : v.rest = n.text ++ rest := hvRest.trans hu
  rw [hrun.trans (run_call hnumber)]
  refine (constants_unparsed (hsv.frame.ample hs) (hstep hsv) ?_).imp fun f h => ?_
  · rw [hrest']
    exact constants_refused_number n rest
  · obtain ⟨reason, hreason, rfl⟩ := h
    obtain ⟨front, hfront, hlocation⟩ := hsv.passed
    rw [hrest'] at hfront
    exact ⟨front, reason, hreason, hfront, by rw [hlocation]⟩

theorem tooDeep_number (n : Numeral) : (number n).TooDeep := by
  intro room s before rest level hs hdepth hle hdeep hrest hfollows
  by_cases hbound : s.depth = s.limits.maxDepth
  · exact (valueBody_at_bound hs hbound).imp fun f h => Or.inl h
  · have hneed : (number n).need 0 = 2 := rfl
    refine (number_refused n hs (by omega) hrest).imp fun f h => Or.inr ?_
    obtain ⟨front, reason, hreason, hfront, hf⟩ := h
    exact ⟨level, front, n.text ++ rest, reason, hreason, List.mem_cons_self, by omega, hfront,
      hf⟩

theorem tooDeep_constant (word : String) (value : Value) (h : (word, value) ∈ constants) :
    (constant word value h).TooDeep := by
  intro room s before rest level hs hdepth hle hdeep hrest hfollows
  have hneed : (constant word value h).need 0 = 1 := rfl
  exact (valueBody_at_bound hs (by omega)).imp fun f hf => Or.inl hf

/-- If the bound is to blame in the rule for its kind, it is for the value. -/
theorem valueBody_refused_kind {r : Rule} {wrap : Yield r → Value} {text : List Char}
    {numbers : List (Nat × List Char)} (hs : s.Ample room) (hle : s.depth ≤ s.limits.maxDepth)
    (hdispatch : s.Allows room (0 + 1) → ∃ u, s.Onward u ∧ u.rest = text ∧
      valueBody.run grammar.kindOf (grammar.run room) s =
        (parse (.rule r) >>= fun x => pure (wrap x) : Script Yield Value).run
          grammar.kindOf (grammar.run room) u)
    (hbody : ∀ levels t, t.Ample levels → t.depth = s.depth + 1 → t.limits = s.limits →
      t.depth ≤ t.limits.maxDepth → t.rest = text →
      Refused numbers t ((body r).run grammar.kindOf (grammar.run levels) t)) :
    Refused numbers s (valueBody.run grammar.kindOf (grammar.run room) s) := by
  by_cases hbound : s.depth = s.limits.maxDepth
  · exact (valueBody_at_bound hs hbound).imp fun f h => Or.inl h
  · have hadmits : s.depth + 1 ≤ s.limits.maxDepth := by omega
    refine valueBody_failsWith_kind hs hadmits hdispatch
      (fun levels t ht hdown hlimits htext => ?_) fun u f honward hf => Blames.behind honward hf
    exact hbody levels t ht hdown hlimits (by rw [hdown, hlimits]; exact hadmits) htext

theorem tooDeep_text (q : Quoted) : (text q).TooDeep := by
  intro room s before rest level hs hdepth hle hdeep hrest hfollows
  have hneed : (text q).need 0 = 2 := rfl
  refine valueBody_refused_kind hs hle
    (fun hallows => valueBody_text hrest ((text q).avoids_isSpace rest) hallows rfl)
    fun levels t ht hdown hlimits hinside htext => ?_
  rw [← hlimits] at hdeep
  exact (stringBody_at_bound ht (by omega)).imp fun f h => Or.inl h

theorem tooDeep_emptyArray (inner : Blanks) : (emptyArray inner).TooDeep := by
  intro room s before rest level hs hdepth hle hdeep hrest hfollows
  have hneed : (emptyArray inner).need 0 = 2 := rfl
  refine valueBody_refused_kind hs hle
    (fun hallows => valueBody_array hrest ((emptyArray inner).avoids_isSpace rest) hallows rfl)
    fun levels t ht hdown hlimits hinside htext => ?_
  rw [← hlimits] at hdeep
  exact (opening_at_bound ht (by omega) "[" _).imp fun f h => Or.inl h

theorem tooDeep_emptyObject (inner : Blanks) : (emptyObject inner).TooDeep := by
  intro room s before rest level hs hdepth hle hdeep hrest hfollows
  have hneed : (emptyObject inner).need 0 = 2 := rfl
  refine valueBody_refused_kind hs hle
    (fun hallows => valueBody_object hrest ((emptyObject inner).avoids_isSpace rest) hallows rfl)
    fun levels t ht hdown hlimits hinside htext => ?_
  rw [← hlimits] at hdeep
  exact (opening_at_bound ht (by omega) "\x7b" _).imp fun f h => Or.inl h

theorem tooDeep_array (inner : Blanks) {items : Items} (hitems : items.TooDeep) :
    (array inner items).TooDeep := by
  intro room s before rest level hs hdepth hle hdeep hrest hfollows
  have hneed : (array inner items).need 0 = items.need 0 + 1 + 1 := items.need_add 2 0 |>.trans
    (Nat.add_comm _ _)
  refine valueBody_refused_kind hs hle
    (fun hallows => valueBody_array hrest ((array inner items).avoids_isSpace rest) hallows rfl)
    fun levels t ht hdown hlimits hinside htext => ?_
  rw [← hlimits] at hdeep
  by_cases hbound : t.depth = t.limits.maxDepth
  · exact (opening_at_bound ht hbound "[" _).imp fun f h => Or.inl h
  · have htext' : t.rest = "[".toList ++ (inner.text ++ (items.spelling ++ ']' :: rest)) := by
      rw [htext, spelling]
      simp
    have hallows : t.Allows levels (0 + 1) := ht.allows (by omega)
    obtain ⟨v, hv, hvRest, hrun⟩ := arrayBody_items inner items hallows htext'
    have hvDepth := hv.frame.depth
    have hvLimits := hv.frame.limits
    have hvItems : v.rest = Blanks.none.text ++ (items.spelling ++ ']' :: rest) := hvRest
    have hfails := hitems [] (level + 1) (hv.frame.ample ht) (by omega)
      (by rw [hvLimits]; omega) (by rw [hvLimits]; omega) hvItems (Nat.lt_succ_self _)
    change Refused _ _ (arrayBody.run grammar.kindOf (grammar.run levels) t)
    rw [hrun]
    exact (bind_failsWith hfails _).imp fun f hf => hf.behind hv

theorem tooDeep_object (inner : Blanks) {entries : Entries} (hentries : entries.TooDeep)
    (hdistinct : (entries.members.map Prod.fst).Nodup) : (object inner entries).TooDeep := by
  intro room s before rest level hs hdepth hle hdeep hrest hfollows
  have hneed : (object inner entries).need 0 = max 2 (entries.need 0 + 1) + 1 := by
    have hadd : entries.need 2 = 2 + entries.need 0 := entries.need_add 2 0
    change max 3 (entries.need 2) = _
    omega
  refine valueBody_refused_kind hs hle
    (fun hallows =>
      valueBody_object hrest ((object inner entries).avoids_isSpace rest) hallows rfl)
    fun levels t ht hdown hlimits hinside htext => ?_
  rw [← hlimits] at hdeep
  by_cases hbound : t.depth = t.limits.maxDepth
  · exact (opening_at_bound ht hbound "\x7b" _).imp fun f h => Or.inl h
  · have htext' : t.rest =
        "\x7b".toList ++ (inner.text ++ (entries.spelling ++ '\x7d' :: rest)) := by
      rw [htext, spelling]
      simp
    have hallows : t.Allows levels (0 + 1) := ht.allows (by omega)
    obtain ⟨v, hv, hvRest, hrun⟩ := objectBody_entries inner entries hallows htext'
    have hvDepth := hv.frame.depth
    have hvLimits := hv.frame.limits
    have hvEntries : v.rest = Blanks.none.text ++ (entries.spelling ++ '\x7d' :: rest) := hvRest
    have hfails := hentries [] (level + 1) (hv.frame.ample ht) (by omega)
      (by rw [hvLimits]; omega) (by rw [hvLimits]; omega) hvEntries (Nat.lt_succ_self _) hdistinct
    change Refused _ _ (objectBody.run grammar.kindOf (grammar.run levels) t)
    rw [hrun]
    exact (bind_failsWith hfails _).imp fun f hf => hf.behind hv

end Tree

theorem Tree.TooDeep.item_refused {item : Tree} (hitem : item.TooDeep) {α : Type}
    {next : Value → Script Yield α} {before : Blanks} {rest : List Char} (level : Nat)
    (hs : s.Ample room) (hdepth : s.depth = 2 * level) (hle : s.depth + 1 ≤ s.limits.maxDepth)
    (hdeep : s.limits.maxDepth < s.depth + (item.need 0 + 1))
    (hrest : s.rest = before.text ++ (item.spelling ++ rest)) (hfollows : Follows rest) :
    Refused (item.numbers level rest) s
      ((parse (.rule .value) >>= next).run grammar.kindOf (grammar.run room) s) := by
  refine Grammar.parse_failsWith (g := grammar) (c := .rule .value) hs hle ?_ next
  intro levels hentered hdown
  have hlimits : (s.entered []).limits = s.limits := rfl
  exact hitem level hentered (by omega) (by rw [hlimits]; omega) (by rw [hlimits]; omega) hrest
    hfollows

section Arrays

theorem Items.tooDeep_last {item : Tree} (hitem : item.TooDeep) (after : Blanks) :
    (last item after).TooDeep := by
  intro sofar rounds room s before rest level hs hdepth hle hdeep hrest hrounds
  obtain ⟨n, rfl⟩ : ∃ n, rounds = n + 1 := ⟨rounds - 1, by omega⟩
  rw [spelling, List.append_assoc] at hrest
  exact hitem.item_refused level hs hdepth hle hdeep hrest
    ((Follows.mark (by decide) rest).blanks after)

theorem Items.tooDeep_more {item : Tree} (hitem : item.TooDeep) (hyields : item.Yielded)
    (after before : Blanks) {others : Items} (hothers : others.TooDeep) :
    (more item after before others).TooDeep := by
  intro sofar rounds room s front rest level hs hdepth hle hdeep hrest hrounds
  obtain ⟨n, rfl⟩ : ∃ n, rounds = n + 1 := ⟨rounds - 1, by omega⟩
  have hneed : (more item after before others).need 0 = max (item.need 0) (others.need 0) := rfl
  have hrest' : s.rest = front.text ++ (item.spelling ++ (after.text ++
      ',' :: (before.text ++ (others.spelling ++ ']' :: rest)))) := by
    rw [hrest, spelling]
    simp
  by_cases hfits : s.depth + (item.need 0 + 1) ≤ s.limits.maxDepth
  · obtain ⟨w, honward, hw, hstep⟩ :=
      itemsFrom_round hyields (hs.allows hfits) n sofar front after hrest'
    have hwDepth := honward.frame.depth
    have hwLimits := honward.frame.limits
    have hshort : w.rest.length < n := by
      have hlength := congrArg List.length hrest'
      simp only [← hw, List.length_append, List.length_cons] at hlength
      omega
    have hfails := hothers (item.value :: sofar) level (honward.frame.ample hs) (by omega)
      (by rw [hwLimits]; omega) (by rw [hwLimits]; omega) hw hshort
    rw [hstep]
    exact hfails.imp fun f hf =>
      (hf.behind honward).mono fun number hmem => List.mem_append_right _ hmem
  · have hfollows := (Follows.mark (c := ',') (by decide)
      (before.text ++ (others.spelling ++ ']' :: rest))).blanks after
    exact (hitem.item_refused level hs hdepth hle (by omega) hrest' hfollows).imp fun f hf =>
      hf.mono fun number hmem => List.mem_append_left _ hmem

end Arrays

section Objects

theorem membersFrom_key_refused (hs : s.Ample room) (hle : s.depth + 1 = s.limits.maxDepth)
    (n : Nat) (members : Object) {before : Blanks} {rest : List Char}
    (hrest : s.rest = before.text ++ rest) (hspace : Avoids isSpace rest) :
    ((membersFrom (n + 1) members).run grammar.kindOf (grammar.run room) s).FailsWith
      (Failure.NamesBound s.limits.maxDepth) := by
  have hallows : s.Allows room (0 + 1) := hs.allows (Nat.le_of_eq hle)
  obtain ⟨_, t, hskip, honward, -⟩ := skip_blanks hallows before hrest hspace
  have hdepth := honward.frame.depth
  have hlimits := honward.frame.limits
  obtain ⟨failure, u, hkey, hfailure⟩ := Grammar.call_failsWith (g := grammar)
    (c := .rule .string) (honward.frame.ample hs)
    (by rw [hdepth, hlimits]; exact Nat.le_of_eq hle) []
    (fun levels hentered hdown => stringBody_at_bound hentered (by
      have hsame : (t.entered []).limits = s.limits := hlimits
      rw [hdown, hdepth, hsame, hle])) .parse
  have hbound : failure.NamesBound t.limits.maxDepth := hfailure
  rw [hlimits] at hbound
  exact ⟨failure, u, (run_call hskip).trans (run_call hkey), hbound⟩

theorem membersFrom_refused {item : Tree} (hitem : item.TooDeep) (key : Quoted) (level n : Nat)
    {sofar : List (String × Value)} (hnew : key.value ∉ (⟨sofar⟩ : Object).keys)
    {before behindKey beforeItem : Blanks} {rest : List Char} (hs : s.Ample room)
    (hdepth : s.depth = 2 * level) (hle : s.depth + 1 ≤ s.limits.maxDepth)
    (hdeep : s.limits.maxDepth < s.depth + max 2 (item.need 0 + 1))
    (hrest : s.rest = before.text ++ (key.text ++ (behindKey.text ++ (":".toList ++
      (beforeItem.text ++ (item.spelling ++ rest))))))
    (hfollows : Follows rest) :
    Refused (item.numbers level rest) s
      ((membersFrom (n + 1) ⟨sofar⟩).run grammar.kindOf (grammar.run room) s) := by
  by_cases hkey : s.depth + 1 = s.limits.maxDepth
  · have hquote : Avoids isSpace (key.text ++ (behindKey.text ++ (":".toList ++
        (beforeItem.text ++ (item.spelling ++ rest))))) := avoids_mark (by decide) _
    exact (membersFrom_key_refused hs hkey n ⟨sofar⟩ hrest hquote).imp fun f h => Or.inl h
  · obtain ⟨start, t, honward, ht, hstep⟩ :=
      membersFrom_key (hs.allows (by omega)) n key before behindKey hrest hnew
    have htDepth := honward.frame.depth
    have htLimits := honward.frame.limits
    have hfails : Refused (item.numbers level rest) t
        ((itemFor n ⟨sofar⟩ start key.value).run grammar.kindOf (grammar.run room) t) :=
      hitem.item_refused level (honward.frame.ample hs) (by omega) (by rw [htLimits]; omega)
        (by rw [htLimits]; omega) ht hfollows
    rw [hstep]
    exact hfails.imp fun f hf => hf.behind honward

theorem Entries.tooDeep_last (key : Quoted) (behindKey beforeItem : Blanks) {item : Tree}
    (hitem : item.TooDeep) (after : Blanks) :
    (last key behindKey beforeItem item after).TooDeep := by
  intro sofar rounds room s before rest level hs hdepth hle hdeep hrest hrounds hdistinct
  obtain ⟨n, rfl⟩ : ∃ n, rounds = n + 1 := ⟨rounds - 1, by omega⟩
  have hnew : key.value ∉ (⟨sofar⟩ : Object).keys := Members.not_mem_of_nodup hdistinct
  have hrest' : s.rest = before.text ++ (key.text ++ (behindKey.text ++ (":".toList ++
      (beforeItem.text ++ (item.spelling ++ (after.text ++ '\x7d' :: rest)))))) := by
    rw [hrest, spelling]
    simp
  exact membersFrom_refused hitem key level n hnew hs hdepth hle hdeep hrest'
    ((Follows.mark (by decide) rest).blanks after)

theorem Entries.tooDeep_more (key : Quoted) (behindKey beforeItem : Blanks) {item : Tree}
    (hitem : item.TooDeep) (hyields : item.Yielded) (after before : Blanks) {others : Entries}
    (hothers : others.TooDeep) :
    (more key behindKey beforeItem item after before others).TooDeep := by
  intro sofar rounds room s front rest level hs hdepth hle hdeep hrest hrounds hdistinct
  obtain ⟨n, rfl⟩ : ∃ n, rounds = n + 1 := ⟨rounds - 1, by omega⟩
  have hneed : (more key behindKey beforeItem item after before others).need 0 =
      max (item.need 0) (others.need 0) := rfl
  have hmembers : sofar ++ (more key behindKey beforeItem item after before others).members =
      (sofar ++ [(key.value, item.value)]) ++ others.members := by
    rw [members, List.append_assoc]
    rfl
  have hnew : key.value ∉ (⟨sofar⟩ : Object).keys := Members.not_mem_of_nodup hdistinct
  have hrest' : s.rest = front.text ++ (key.text ++ (behindKey.text ++ (":".toList ++
      (beforeItem.text ++ (item.spelling ++ (after.text ++
        ',' :: (before.text ++ (others.spelling ++ '\x7d' :: rest)))))))) := by
    rw [hrest, spelling]
    simp
  by_cases hfits : s.depth + max 2 (item.need 0 + 1) ≤ s.limits.maxDepth
  · obtain ⟨w, honward, hw, hstep⟩ := membersFrom_round hyields key (hs.allows hfits) n hnew front
      behindKey beforeItem after hrest'
    have hwDepth := honward.frame.depth
    have hwLimits := honward.frame.limits
    have hshort : w.rest.length < n := by
      have hlength := congrArg List.length hrest'
      simp only [← hw, List.length_append, List.length_cons] at hlength
      omega
    rw [hmembers] at hdistinct
    have hfails := hothers (sofar ++ [(key.value, item.value)]) level (honward.frame.ample hs)
      (by omega) (by rw [hwLimits]; omega) (by rw [hwLimits]; omega) hw hshort hdistinct
    rw [hstep]
    exact hfails.imp fun f hf =>
      (hf.behind honward).mono fun number hmem => List.mem_append_right _ hmem
  · have hfollows := (Follows.mark (c := ',') (by decide)
      (before.text ++ (others.spelling ++ '\x7d' :: rest))).blanks after
    exact (membersFrom_refused hitem key level n hnew hs hdepth hle (by omega) hrest'
      hfollows).imp fun f hf => hf.mono fun number hmem => List.mem_append_left _ hmem

end Objects

mutual

/-- Derivations without a key that comes twice, each with all that it is made of. -/
theorem Tree.tooDeep (t : Tree) (h : t.Distinct) : t.TooDeep := by
  cases t with
  | constant word value hentry => exact Tree.tooDeep_constant word value hentry
  | number n => exact Tree.tooDeep_number n
  | text q => exact Tree.tooDeep_text q
  | emptyArray inner => exact Tree.tooDeep_emptyArray inner
  | array inner items => exact Tree.tooDeep_array inner (items.tooDeep h)
  | emptyObject inner => exact Tree.tooDeep_emptyObject inner
  | object inner entries => exact Tree.tooDeep_object inner (entries.tooDeep h.2) h.1

theorem Items.tooDeep (items : Items) (h : items.Distinct) : items.TooDeep := by
  cases items with
  | last item after => exact Items.tooDeep_last (item.tooDeep h) after
  | more item after before others =>
    exact Items.tooDeep_more (item.tooDeep h.1) (item.yielded h.1) after before
      (others.tooDeep h.2)

theorem Entries.tooDeep (entries : Entries) (h : entries.Distinct) : entries.TooDeep := by
  cases entries with
  | last key behindKey beforeItem item after =>
    exact Entries.tooDeep_last key behindKey beforeItem (item.tooDeep h) after
  | more key behindKey beforeItem item after before others =>
    exact Entries.tooDeep_more key behindKey beforeItem (item.tooDeep h.1) (item.yielded h.1)
      after before (others.tooDeep h.2)

end

end Descent.Json
