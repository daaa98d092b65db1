import Descent.Proofs.Json.Refusal
import Descent.Proofs.Viability

/-!
How the rules of the data format fail. A run that failed is taken apart at the place where it did:
what stands in front of it is blanks, derivations and marks, and there a token was missed, a key
came again, or a rule one level down failed. A loop fails in the present round or behind it.
-/
namespace Descent.Json

open Script

/-- What is said of a key that its object has already. -/
def repeated (place : Position) (key : String) : Failure :=
  ⟨place, "duplicate key " ++ Text.quoted key, none⟩

def CallFails (room : Nat) (r : Rule) (s : Scanner) (f : Failure) : Prop :=
  ∃ u, s.call .parse (grammar.kindOf (.rule r)) (grammar.run room (.rule r)) [] =
    .finished (.error f) u

/-- How an array fails in a round: at the item, or behind its comma. -/
inductive ItemsFail (room rounds : Nat) (s : Scanner) (f : Failure) : Prop
  | item (h : CallFails room .value s f)
  | behind (before : Blanks) (item : Tree) (after : Blanks) (sofar : List Value) (t u : Scanner)
      (honward : s.Onward t)
      (hrest : s.rest = (before.text ++ (item.spelling ++ (after.text ++ [',']))) ++ t.rest)
      (hdistinct : item.Distinct) (hdepth : s.depth + (item.need 0 + 1) ≤ s.limits.maxDepth)
      (hrun : (itemsFrom rounds sofar).run grammar.kindOf (grammar.run room) t =
        .finished (.error f) u)

/-- How an object fails in a round: at the key, at the colon, at the item, or behind its comma. -/
inductive EntriesFail (room rounds : Nat) (sofar : Object) (s : Scanner) (f : Failure) : Prop
  | key (before : Blanks) (t : Scanner) (honward : s.Onward t)
      (hrest : s.rest = before.text ++ t.rest) (h : CallFails room .string t f)
  | again (before : Blanks) (q : Quoted) (rest : List Char)
      (hrest : s.rest = before.text ++ (q.text ++ rest)) (hthere : q.value ∈ sofar.keys)
      (hdepth : s.depth + 2 ≤ s.limits.maxDepth)
      (hf : f = repeated (s.location.advance before.text) q.value)
  | colon (before : Blanks) (q : Quoted) (behindKey : Blanks) (t : Scanner) (reason : Reason)
      (honward : s.Onward t)
      (hrest : s.rest = (before.text ++ (q.text ++ behindKey.text)) ++ t.rest)
      (hnew : q.value ∉ sofar.keys) (hdepth : s.depth + 2 ≤ s.limits.maxDepth)
      (hmissed : (Token.literal ":").Missed t reason) (hf : f = .ofReason t.location reason)
  | item (before : Blanks) (q : Quoted) (behindKey : Blanks) (t : Scanner) (honward : s.Onward t)
      (hrest : s.rest = (before.text ++ (q.text ++ (behindKey.text ++ [':']))) ++ t.rest)
      (hnew : q.value ∉ sofar.keys) (hdepth : s.depth + 2 ≤ s.limits.maxDepth)
      (h : CallFails room .value t f)
  | behind (before : Blanks) (q : Quoted) (behindKey beforeItem : Blanks) (item : Tree)
      (after : Blanks) (t u : Scanner) (honward : s.Onward t)
      (hrest : s.rest = (before.text ++ (q.text ++ (behindKey.text ++ ':' ::
        (beforeItem.text ++ (item.spelling ++ (after.text ++ [','])))))) ++ t.rest)
      (hnew : q.value ∉ sofar.keys) (hdistinct : item.Distinct)
      (hdepth : s.depth + max 2 (item.need 0 + 1) ≤ s.limits.maxDepth)
      (hrun : (membersFrom rounds ⟨sofar.entries ++ [(q.value, item.value)]⟩).run grammar.kindOf
        (grammar.run room) t = .finished (.error f) u)

/-- Two marks, and rounds of a loop between them if the second one does not follow the first. -/
def bracketed {α : Type} (opening closing : String) (none : α) (loop : Nat → Script Yield α) :
    Script Yield α := do
  blanks
  let _ ← parse (lit opening)
  blanks
  if ← succeeds (lit closing) then return none
  else
    let rest ← get .remaining
    let value ← loop (rest.length + 1)
    let _ ← parse (lit closing)
    return value

theorem arrayBody_eq : arrayBody = bracketed "[" "]" [] fun rounds => itemsFrom rounds [] := rfl

theorem objectBody_eq :
    objectBody = bracketed "\x7b" "\x7d" Members.empty fun rounds =>
      membersFrom rounds Members.empty := rfl

/-- How something between two marks fails: at one of the marks, or inside. -/
inductive BracketFails {α : Type} (room : Nat) (opening closing : String)
    (loop : Nat → Script Yield α) (s : Scanner) (f : Failure) : Prop
  | opening (before : Blanks) (t : Scanner) (reason : Reason) (honward : s.Onward t)
      (hrest : s.rest = before.text ++ t.rest) (hmissed : (Token.literal opening).Missed t reason)
      (hf : f = .ofReason t.location reason)
  | inside (before inner : Blanks) (t u : Scanner) (honward : s.Onward t)
      (hrest : s.rest = (before.text ++ (opening.toList ++ inner.text)) ++ t.rest)
      (hrun : (loop (t.rest.length + 1)).run grammar.kindOf (grammar.run room) t =
        .finished (.error f) u)
  | closing (before inner : Blanks) (t : Scanner) (value : α) (u : Scanner) (reason : Reason)
      (honward : s.Onward t)
      (hrest : s.rest = (before.text ++ (opening.toList ++ inner.text)) ++ t.rest)
      (hrun : (loop (t.rest.length + 1)).run grammar.kindOf (grammar.run room) t =
        .finished (.ok value) u)
      (honward' : t.Onward u) (hmissed : (Token.literal closing).Missed u reason)
      (hf : f = .ofReason u.location reason)

/-- What a value is tried as before the last constant, apart from a number: by the mark that it
begins with, and as each other constant. -/
def tried : List String := ["\"", "\x7b", "[", "true", "false"]

/-- How a value fails: in the rule for its kind, or where neither a mark nor a constant stands. -/
inductive ValueFails (room : Nat) (s : Scanner) (f : Failure) : Prop
  | kind (before : Blanks) (t : Scanner) (honward : s.Onward t)
      (hrest : s.rest = before.text ++ t.rest) (r : Rule)
      (hkind : r ∈ [Rule.string, .object, .array]) (h : CallFails room r t f)
  | unknown (before : Blanks) (t : Scanner) (reason : Reason) (honward : s.Onward t)
      (hrest : s.rest = before.text ++ t.rest)
      (htried : ∀ word ∈ tried, ∃ reason', (Token.literal word).Missed t reason')
      (hmissed : (Token.literal "null").Missed t reason) (hf : f = unparsed t.location reason)

variable {room : Nat} {s u : Scanner} {f : Failure}

section Leaves

/-- The pattern for the body of a text never refuses one. -/
theorem text_not_refused (text : List Char) : ¬ (Token.pattern textPattern).Refuses text := by
  rintro ⟨reason, hread⟩
  rw [Token.reading_pattern text_munches] at hread
  cases hread

/-- A text in quotes fails at either quote, or for a surrogate without its other half. -/
theorem stringBody_error_cases (hs : s.Ready room)
    (h : stringBody.run grammar.kindOf (grammar.run room) s = .finished (.error f) u) :
    (∃ reason, (Token.literal "\"").Missed s reason ∧ f = .ofReason s.location reason) ∨
      (s.depth + 1 ≤ s.limits.maxDepth ∧ ∃ (pieces : List Piece) (t : Scanner) (reason : Reason),
        s.Onward t ∧ s.rest = ('"' :: pieces.flatMap Piece.text) ++ t.rest ∧
        (Token.literal "\"").Missed t reason ∧ f = unclosed t.location reason) ∨
      ∃ location code, f = ⟨location, (Escape.Error.invalidCodepoint code).message, none⟩ := by
  rcases Grammar.literal_error_exact (g := grammar) hs h with
    hopening | ⟨hadmits, _, v, hv, hquote, hrun⟩
  · exact Or.inl hopening
  · right
    rcases parse_error_cases hrun with ⟨w, hbody⟩ | ⟨raw, w, hbody, hrun⟩
    · obtain ⟨reason, ⟨hbound, -⟩ | ⟨-, hread⟩, -⟩ :=
        Grammar.call_token_missed (g := grammar) (hv.ready hs) hbody
      · have hdepth := hv.frame.depth
        have hlimits := hv.frame.limits
        rw [hlimits] at hbound
        omega
      · exact absurd ⟨reason, hread⟩ (text_not_refused _)
    · obtain ⟨hw, -, rest, htakes, hwRest⟩ :=
        Grammar.call_token_ok (g := grammar) (hv.ready hs).ample.fits hbody
      have hwRest : w.rest = rest := hwRest
      obtain ⟨strokes, htext, hraw⟩ := strokes_of_takes htakes
      have hsw := hv.trans hw
      rw [hraw] at hrun
      rcases Escape.decode_strokes strokes with ⟨pieces, hpieces, hdecode⟩ | ⟨code, -, hdecode⟩
      · left
        rw [hdecode] at hrun
        obtain ⟨result, x, hclose, hrun⟩ := call_of_run hrun
        cases result with
        | ok => cases hrun
        | error failure =>
          obtain ⟨reason, hmissed, rfl⟩ :=
            Grammar.call_token_missed (g := grammar) (hsw.ready hs) hclose
          obtain ⟨hx, hxRest⟩ :=
            Grammar.call_failed (g := grammar) (hsw.ready hs).ample.fits hclose
          have hf : f = ⟨x.location, "invalid character in string literal", x.lastFailure⟩ := by
            cases hrun
            rfl
          refine ⟨hadmits, pieces, w, reason, hsw, ?_, hmissed, ?_⟩
          · rw [hquote, htext, hwRest, hpieces]
            rfl
          · rw [hf, Scanner.lastFailure_of_call hclose, hx.location_eq hxRest]
            rfl
      · right
        rw [hdecode] at hrun
        have hf : f = ⟨w.location, (Escape.Error.invalidCodepoint code).message,
            w.lastFailure⟩ := by
          cases hrun
          rfl
        exact ⟨w.location, code, by rw [hf, Scanner.lastFailure_of_call_ok hbody]⟩

/-- Where no constant stands, each was missed, and the last one is the cause. -/
theorem constantFrom_error {entries : List (String × Value)} {word : String} {value : Value}
    (hlast : entries.getLast? = some (word, value)) (hs : s.Ready room)
    (h : (constantFrom entries).run grammar.kindOf (grammar.run room) s =
      .finished (.error f) u) :
    (∀ entry ∈ entries, ∃ reason, (Token.literal entry.1).Missed s reason) ∧
      ∃ reason, (Token.literal word).Missed s reason ∧ f = unparsed s.location reason := by
  induction entries generalizing s with
  | nil => cases hlast
  | cons entry others ih =>
    obtain ⟨result, v, hcall, hrun⟩ := call_of_run h
    cases result with
    | ok => cases hrun
    | error failure =>
      obtain ⟨hv, hvRest⟩ := Grammar.call_failed (g := grammar) hs.ample.fits hcall
      have hlocation := hv.location_eq hvRest
      obtain ⟨reason, hmissed, rfl⟩ := Grammar.call_token_missed (g := grammar) hs hcall
      cases others with
      | nil =>
        cases hlast
        have hf : f = ⟨v.location, "unable to parse value", v.lastFailure⟩ := by
          cases hrun
          rfl
        refine ⟨fun entry hentry => ?_, reason, hmissed, ?_⟩
        · rw [List.mem_singleton.mp hentry]
          exact ⟨reason, hmissed⟩
        · rw [hf, Scanner.lastFailure_of_call hcall, hlocation]
          rfl
      | cons second others =>
        obtain ⟨hothers, last, hlastMissed, hf⟩ := ih hlast (hv.ready hs) hrun
        refine ⟨fun entry hentry => ?_, last, hlastMissed.back hv hvRest, ?_⟩
        · rcases List.mem_cons.mp hentry with rfl | hentry
          · exact ⟨reason, hmissed⟩
          · obtain ⟨reason', hmissed'⟩ := hothers entry hentry
            exact ⟨reason', hmissed'.back hv hvRest⟩
        · rw [hf, hlocation]

end Leaves

section Loops

theorem itemsFrom_error_cases {rounds : Nat} {sofar : List Value} (hs : s.Ready room)
    (h : (itemsFrom (rounds + 1) sofar).run grammar.kindOf (grammar.run room) s =
      .finished (.error f) u) : ItemsFail room rounds s f := by
  rcases parse_error_cases h with hitem | ⟨value, v, hitem, hrun⟩
  · exact .item hitem
  · obtain ⟨hv, before, item, hspells, hdepth⟩ :=
      call_item_sound (fun levels _ => sound levels) hs.ample.fits hitem
    obtain ⟨after, w, hafter, hw, hrun⟩ := blanks_of_run (hv.ready hs).ample.fits hrun
    have hsw := hv.trans hw
    obtain ⟨x, hx, ⟨-, hcomma, hrun⟩ | ⟨-, hrun⟩⟩ :=
      Grammar.succeeds_of_run (g := grammar) (hsw.ready hs).ample.fits hrun
    · refine .behind before item after _ x u (hsw.trans hx) ?_ hspells.distinct hdepth hrun
      rw [hspells.text, hafter, hcomma]
      simp
    · cases hrun

theorem itemFor_error_cases {rounds : Nat} {sofar : Object} {start : Position} {key : String}
    (hs : s.Ready room) (hnew : key ∉ sofar.keys)
    (h : (itemFor rounds sofar start key).run grammar.kindOf (grammar.run room) s =
      .finished (.error f) u) :
    CallFails room .value s f ∨
      ∃ (before : Blanks) (item : Tree) (after : Blanks) (t : Scanner), s.Onward t ∧
        s.rest = (before.text ++ (item.spelling ++ (after.text ++ [',']))) ++ t.rest ∧
        item.Distinct ∧ s.depth + (item.need 0 + 1) ≤ s.limits.maxDepth ∧
        (membersFrom rounds ⟨sofar.entries ++ [(key, item.value)]⟩).run grammar.kindOf
          (grammar.run room) t = .finished (.error f) u := by
  rcases parse_error_cases h with hitem | ⟨value, v, hitem, hrun⟩
  · exact Or.inl hitem
  · obtain ⟨hv, before, item, hspells, hdepth⟩ :=
      call_item_sound (fun levels _ => sound levels) hs.ample.fits hitem
    obtain rfl := hspells.value
    rw [Members.insert_of_not_mem hnew] at hrun
    obtain ⟨after, w, hafter, hw, hrun⟩ := blanks_of_run (hv.ready hs).ample.fits hrun
    have hsw := hv.trans hw
    obtain ⟨x, hx, ⟨-, hcomma, hrun⟩ | ⟨-, hrun⟩⟩ :=
      Grammar.succeeds_of_run (g := grammar) (hsw.ready hs).ample.fits hrun
    · refine Or.inr ⟨before, item, after, x, hsw.trans hx, ?_, hspells.distinct, hdepth, hrun⟩
      rw [hspells.text, hafter, hcomma]
      simp
    · cases hrun

theorem membersFrom_error_cases {rounds : Nat} {sofar : Object} (hs : s.Ready room)
    (h : (membersFrom (rounds + 1) sofar).run grammar.kindOf (grammar.run room) s =
      .finished (.error f) u) : EntriesFail room rounds sofar s f := by
  rw [membersFrom_succ] at h
  obtain ⟨before, t, hbefore, ht, hrun⟩ := blanks_of_run hs.ample.fits h
  rcases parse_error_cases (get_of_run hrun) with hkey | ⟨key, v, hkey, hrun⟩
  · exact .key before t ht hbefore hkey
  · obtain ⟨hv, q, hquoted, rfl, hdepth⟩ := call_key_sound (ht.ready hs).ample.fits hkey
    have hsv := ht.trans hv
    have hkeyDepth := ht.frame.within hdepth
    by_cases hthere : q.value ∈ sofar.keys
    · rw [if_pos ((sofar.contains_iff _).mpr hthere)] at hrun
      have hf : f = ⟨t.location, "duplicate key " ++ Text.quoted q.value, v.lastFailure⟩ := by
        cases hrun
        rfl
      refine .again before q v.rest (by rw [hbefore, hquoted]) hthere hkeyDepth ?_
      rw [hf, Scanner.lastFailure_of_call_ok hkey, ht.place_eq hbefore]
      rfl
    · rw [if_neg (mt (sofar.contains_iff _).mp hthere)] at hrun
      obtain ⟨behindKey, w, hbehindKey, hw, hrun⟩ := blanks_of_run (hsv.ready hs).ample.fits hrun
      have hsw := hsv.trans hw
      rcases Grammar.literal_error_exact (g := grammar) (hsw.ready hs) hrun with
        ⟨reason, hmissed, hf⟩ | ⟨-, _, x, hx, hcolon, hrun⟩
      · refine .colon before q behindKey w reason hsw ?_ hthere hkeyDepth hmissed hf
        rw [hbefore, hquoted, hbehindKey]
        simp
      · have hsx := hsw.trans hx
        rcases itemFor_error_cases (hsx.ready hs) hthere hrun with
          hitem | ⟨beforeItem, item, after, y, hy, hrest, hdistinct, hitemDepth, hrun⟩
        · refine .item before q behindKey x hsx ?_ hthere hkeyDepth hitem
          rw [hbefore, hquoted, hbehindKey, hcolon]
          simp
        · refine .behind before q behindKey beforeItem item after y u (hsx.trans hy) ?_ hthere
            hdistinct ?_ hrun
          · rw [hbefore, hquoted, hbehindKey, hcolon, hrest]
            simp
          · have hbelow := hsx.frame.within hitemDepth
            omega

end Loops

section Bodies

theorem bracketed_error_cases {α : Type} {opening closing : String} {none : α}
    {loop : Nat → Script Yield α} (hs : s.Ready room)
    (h : (bracketed opening closing none loop).run grammar.kindOf (grammar.run room) s =
      .finished (.error f) u) : BracketFails room opening closing loop s f := by
  obtain ⟨before, t, hbefore, ht, hrun⟩ := blanks_of_run hs.ample.fits h
  rcases Grammar.literal_error_exact (g := grammar) (ht.ready hs) hrun with
    ⟨reason, hmissed, hf⟩ | ⟨-, _, v, hv, hopen, hrun⟩
  · exact .opening before t reason ht hbefore hmissed hf
  · have hsv := ht.trans hv
    obtain ⟨inner, w, hinner, hw, hrun⟩ := blanks_of_run (hsv.ready hs).ample.fits hrun
    have hsw := hsv.trans hw
    obtain ⟨x, hx, ⟨-, -, hrun⟩ | ⟨hxRest, hrun⟩⟩ :=
      Grammar.succeeds_of_run (g := grammar) (hsw.ready hs).ample.fits hrun
    · cases hrun
    · have hsx := hsw.trans hx
      have hrest : s.rest = (before.text ++ (opening.toList ++ inner.text)) ++ x.rest := by
        rw [hbefore, hopen, hinner, hxRest]
        simp
      rcases bind_error_cases (get_of_run hrun) with hloop | ⟨value, y, hloop, hrun⟩
      · exact .inside before inner x u hsx hrest hloop
      · have hy := Grammar.run_onward (g := grammar) _ (hsx.ready hs).ample.fits hloop
        rcases Grammar.literal_error_exact (g := grammar) ((hsx.trans hy).ready hs) hrun with
          ⟨reason, hmissed, hf⟩ | ⟨-, _, z, -, -, hrun⟩
        · exact .closing before inner x value y reason hsx hrest hloop hy hmissed hf
        · cases hrun

/-- What begins with none of the marks fails where no constant stands either. -/
theorem unmarked_error_cases (hs : s.Ready room)
    (h : (attempt (.rule .number) [] >>= fun
        | .ok x => pure (.number x)
        | .error _ => constantFrom constants : Script Yield Value).run grammar.kindOf
      (grammar.run room) s = .finished (.error f) u) :
    (∀ entry ∈ constants, ∃ reason, (Token.literal entry.1).Missed s reason) ∧
      ∃ reason, (Token.literal "null").Missed s reason ∧ f = unparsed s.location reason := by
  obtain ⟨answer, v, hnumber, hrun⟩ := call_of_run h
  cases answer with
  | ok number => cases hrun
  | error failure =>
    obtain ⟨hv, hvRest⟩ := Grammar.call_failed (g := grammar) hs.ample.fits hnumber
    obtain ⟨hconstants, reason, hmissed, hf⟩ := constantFrom_error rfl (hv.ready hs) hrun
    refine ⟨fun entry hentry => ?_, reason, hmissed.back hv hvRest, ?_⟩
    · obtain ⟨reason', hmissed'⟩ := hconstants entry hentry
      exact ⟨reason', hmissed'.back hv hvRest⟩
    · rw [hf, hv.location_eq hvRest]

theorem valueBody_error_cases (hs : s.Ready room)
    (h : valueBody.run grammar.kindOf (grammar.run room) s = .finished (.error f) u) :
    ValueFails room s f := by
  obtain ⟨before, t, hbefore, ht, hrun⟩ := blanks_of_run hs.ample.fits h
  -- the marks are only looked at, so that all alternatives begin behind the same blanks
  have hfrom : ∀ {x : Scanner}, t.Onward x → x.rest = t.rest →
      s.Onward x ∧ s.rest = before.text ++ x.rest := by
    intro x hx hrest
    exact ⟨ht.trans hx, by rw [hbefore, hrest]⟩
  obtain ⟨v, hv, hvRest, hrun | ⟨⟨quote, hquote⟩, hrun⟩⟩ :=
    Grammar.sees_missed (g := grammar) (ht.ready hs) hrun
  · obtain ⟨hsv, hrest⟩ := hfrom hv hvRest
    rcases parse_error_cases hrun with hcall | ⟨text, w, -, hrun⟩
    · exact .kind before v hsv hrest .string (by decide) hcall
    · cases hrun
  obtain ⟨w, hw, hwRest, hrun | ⟨⟨brace, hbrace⟩, hrun⟩⟩ :=
    Grammar.sees_missed (g := grammar) ((ht.trans hv).ready hs) hrun
  · obtain ⟨hsw, hrest⟩ := hfrom (hv.trans hw) (hwRest.trans hvRest)
    rcases parse_error_cases hrun with hcall | ⟨members, x, -, hrun⟩
    · exact .kind before w hsw hrest .object (by decide) hcall
    · cases hrun
  have htw := hv.trans hw
  obtain ⟨x, hx, hxRest, hrun | ⟨⟨bracket, hbracket⟩, hrun⟩⟩ :=
    Grammar.sees_missed (g := grammar) ((ht.trans htw).ready hs) hrun
  · obtain ⟨hsx, hrest⟩ := hfrom (htw.trans hx) (hxRest.trans (hwRest.trans hvRest))
    rcases parse_error_cases hrun with hcall | ⟨items, y, -, hrun⟩
    · exact .kind before x hsx hrest .array (by decide) hcall
    · cases hrun
  have htx := htw.trans hx
  have hplace : x.rest = t.rest := hxRest.trans (hwRest.trans hvRest)
  obtain ⟨hconstants, reason, hmissed, hf⟩ := unmarked_error_cases ((ht.trans htx).ready hs) hrun
  refine .unknown before t reason ht hbefore ?_ (hmissed.back htx hplace) ?_
  · intro word hword
    simp only [tried, List.mem_cons, List.not_mem_nil, or_false] at hword
    rcases hword with rfl | rfl | rfl | rfl | rfl
    · exact ⟨quote, hquote⟩
    · exact ⟨brace, hbrace.back hv hvRest⟩
    · exact ⟨bracket, hbracket.back htw (hwRest.trans hvRest)⟩
    · obtain ⟨reason', hmissed'⟩ := hconstants ("true", .bool true) (by simp [constants])
      exact ⟨reason', hmissed'.back htx hplace⟩
    · obtain ⟨reason', hmissed'⟩ := hconstants ("false", .bool false) (by simp [constants])
      exact ⟨reason', hmissed'.back htx hplace⟩
  · rw [hf, htx.location_eq hplace]

end Bodies

end Descent.Json
