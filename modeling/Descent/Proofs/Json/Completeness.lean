import Descent.Proofs.Json.Dispatch

/-!
The grammar of the data format reads what derivations spell. A run of the rule for values on
blanks and the spelling of a derivation yields its value and leaves what follows. The induction is
on the derivation, and on its items and entries with it, where every round of a loop reads one.
-/
namespace Descent.Json

open Script
open Text (Avoids)

variable {room : Nat} {s : Scanner} {rest : List Char}

/-- The run of the rule for values reads the derivation behind blanks, for its value. -/
def Tree.Yielded (t : Tree) : Prop :=
  ∀ ⦃room : Nat⦄ ⦃s : Scanner⦄ ⦃before : Blanks⦄ ⦃rest : List Char⦄, s.Allows room (t.need 0) →
    s.rest = before.text ++ (t.spelling ++ rest) → Follows rest →
    (valueBody.run grammar.kindOf (grammar.run room) s).Yields t.value rest

/-- Rounds enough read the items up to the bracket, behind those read so far. -/
def Items.Yielded (items : Items) : Prop :=
  ∀ (sofar : List Value) ⦃rounds room : Nat⦄ ⦃s : Scanner⦄ ⦃before : Blanks⦄ ⦃rest : List Char⦄,
    s.Allows room (items.need 0 + 1) → s.rest = before.text ++ (items.spelling ++ ']' :: rest) →
    s.rest.length < rounds →
    ((itemsFrom rounds sofar).run grammar.kindOf (grammar.run room) s).Yields
      (sofar.reverse ++ items.values) (']' :: rest)

/-- Rounds enough read the entries up to the brace, behind the members read so far, if no key
comes twice among them all. -/
def Entries.Yielded (entries : Entries) : Prop :=
  ∀ (sofar : List (String × Value)) ⦃rounds room : Nat⦄ ⦃s : Scanner⦄ ⦃before : Blanks⦄
    ⦃rest : List Char⦄, s.Allows room (max 2 (entries.need 0 + 1)) →
    s.rest = before.text ++ (entries.spelling ++ '\x7d' :: rest) → s.rest.length < rounds →
    ((sofar ++ entries.members).map Prod.fst).Nodup →
    ((membersFrom rounds ⟨sofar⟩).run grammar.kindOf (grammar.run room) s).Yields
      ⟨sofar ++ entries.members⟩ ('\x7d' :: rest)

namespace Tree

theorem unmarked {c : Char} (h : c ∉ ['"', '\x7b', '[']) (cs : List Char) :
    ∀ mark ∈ ["\"", "\x7b", "["], mark.toList.isPrefixOf (c :: cs) = false := by
  intro mark hmark
  simp only [List.mem_cons, List.not_mem_nil, or_false, not_or] at h hmark
  obtain ⟨hquote, hbrace, hbracket⟩ := h
  have hhead : ∀ d : Char, c ≠ d → [d].isPrefixOf (c :: cs) = false := by
    intro d hd
    simp [List.isPrefixOf, hd.symm]
  rcases hmark with rfl | rfl | rfl
  · exact hhead '"' hquote
  · exact hhead '\x7b' hbrace
  · exact hhead '[' hbracket

theorem unmarked_number (n : Numeral) (rest : List Char) :
    ∀ mark ∈ ["\"", "\x7b", "["], mark.toList.isPrefixOf (n.text ++ rest) = false := by
  obtain ⟨c, cs, htext, hstart⟩ := n.exists_cons
  rw [htext]
  refine unmarked (fun hmem => ?_) _
  have hnot : ∀ d ∈ ['"', '\x7b', '['], startsNumeral d = false :=
    Text.forall_of_all (by decide)
  rw [hnot c hmem] at hstart
  cases hstart

theorem yielded_number (n : Numeral) : (number n).Yielded := by
  intro room s before rest hs hrest hfollows
  obtain ⟨u, honward, hu, hrun⟩ :=
    valueBody_unmarked hrest ((number n).avoids_isSpace rest) hs (unmarked_number n rest)
  obtain ⟨v, hcall, -, hv⟩ :=
    Grammar.call_yields (g := grammar) (c := .rule .number) (honward.frame.allows hs) []
      (fun _ hallows => numberBody_yields n hallows hu hfollows) .parse
  refine ⟨v, ?_, hv⟩
  rw [hrun]
  exact run_call hcall

theorem constants_apart {word : String} {value : Value} (h : (word, value) ∈ constants)
    (rest : List Char) : ∀ entry ∈ constants, entry = (word, value) ∨
      entry.1.toList.isPrefixOf (word.toList ++ rest) = false := by
  intro entry hentry
  simp only [constants, List.mem_cons, Prod.mk.injEq, List.not_mem_nil, or_false] at h hentry
  rcases h with ⟨rfl, rfl⟩ | ⟨rfl, rfl⟩ | ⟨rfl, rfl⟩
  · rcases hentry with rfl | rfl | rfl
    · exact Or.inl rfl
    · exact Or.inr rfl
    · exact Or.inr rfl
  · rcases hentry with rfl | rfl | rfl
    · exact Or.inr rfl
    · exact Or.inl rfl
    · exact Or.inr rfl
  · rcases hentry with rfl | rfl | rfl
    · exact Or.inr rfl
    · exact Or.inr rfl
    · exact Or.inl rfl

theorem yielded_constant (word : String) (value : Value) (h : (word, value) ∈ constants) :
    (constant word value h).Yielded := by
  intro room s before rest hs hrest hfollows
  obtain ⟨c, cs, htext, hletter⟩ : ∃ c cs, word.toList = c :: cs ∧ c ∈ ['t', 'f', 'n'] := by
    simp only [constants, List.mem_cons, Prod.mk.injEq, List.not_mem_nil, or_false] at h
    rcases h with ⟨rfl, -⟩ | ⟨rfl, -⟩ | ⟨rfl, -⟩
    · exact ⟨'t', _, rfl, by decide⟩
    · exact ⟨'f', _, rfl, by decide⟩
    · exact ⟨'n', _, rfl, by decide⟩
  have hapart : ∀ d ∈ ['t', 'f', 'n'], d ∉ ['"', '\x7b', '['] ∧ startsNumeral d = false :=
    Text.forall_of_all (by decide)
  obtain ⟨hmark, hstart⟩ := hapart c hletter
  have hmarks : ∀ mark ∈ ["\"", "\x7b", "["],
      mark.toList.isPrefixOf (word.toList ++ rest) = false := by
    rw [htext]
    exact unmarked hmark _
  obtain ⟨u, honward, hu, hrun⟩ :=
    valueBody_unmarked hrest ((constant word value h).avoids_isSpace rest) hs hmarks
  have huAllows := honward.frame.allows hs
  have hword : u.rest = word.toList ++ rest := hu
  have hnumeral : Avoids startsNumeral u.rest := by
    rw [hword, htext]
    exact Text.avoids_cons hstart _
  obtain ⟨failure, v, hcall, hvOnward, hv⟩ :=
    Grammar.call_fails (g := grammar) (c := .rule .number) huAllows []
      (fun _ hallows => numberBody_fails hallows hnumeral) .parse
  obtain ⟨w, hread, hw⟩ := constantFrom_yields (hvOnward.frame.allows huAllows) h (hv.trans hword)
    (constants_apart h rest)
  refine ⟨w, ?_, hw⟩
  rw [hrun]
  exact (run_call hcall).trans hread

theorem yielded_text (q : Quoted) : (text q).Yielded := by
  intro room s before rest hs hrest hfollows
  obtain ⟨u, honward, hu, hrun⟩ :=
    valueBody_text hrest ((text q).avoids_isSpace rest) hs rfl
  exact valueBody_yields_kind (honward.frame.allows hs) hrun fun _ hallows =>
    stringBody_yields q hallows hu

end Tree

theorem call_item {t : Tree} (ht : t.Yielded) (hs : s.Allows room (t.need 0 + 1))
    (before after : Blanks) {c : Char} {cs : List Char}
    (hrest : s.rest = before.text ++ (t.spelling ++ (after.text ++ c :: cs)))
    (hc : c ∈ [',', ']', '\x7d']) :
    ∃ u skipped v,
      s.call .parse (grammar.kindOf (.rule .value)) (grammar.run room (.rule .value)) [] =
        .finished (.ok t.value) u ∧
      u.call .skip (grammar.kindOf (.token (.pattern blankPattern)))
        (grammar.run room (.token (.pattern blankPattern))) [] = .finished (.ok skipped) v ∧
      s.Onward v ∧ v.rest = c :: cs := by
  have hmark := Follows.mark hc cs
  obtain ⟨u, hcall, honward, hu⟩ :=
    Grammar.call_yields (g := grammar) (c := .rule .value) hs []
      (fun _ hallows => ht hallows hrest (hmark.blanks after)) .parse
  have hspace : c ∈ ['"', '[', '\x7b', ':', ',', ']', '\x7d'] :=
    List.mem_append_right ['"', '[', '\x7b', ':'] hc
  obtain ⟨skipped, v, hskip, honward', hv⟩ :=
    skip_blanks (honward.frame.allows hs) after hu
      (avoids_mark hspace cs)
  exact ⟨u, skipped, v, hcall, hskip, honward.trans honward', hv⟩

theorem call_opening {height : Nat} (hs : s.Allows room (height + 1)) {word : String}
    (hvisible : ∀ rest, Avoids isSpace (word.toList ++ rest)) (inner : Blanks)
    (hrest : s.rest = word.toList ++ (inner.text ++ rest)) (hspace : Avoids isSpace rest) :
    ∃ skipped t u skipped' v,
      s.call .skip (grammar.kindOf (.token (.pattern blankPattern)))
        (grammar.run room (.token (.pattern blankPattern))) [] = .finished (.ok skipped) t ∧
      t.call .parse (grammar.kindOf (lit word)) (grammar.run room (lit word)) [] =
        .finished (.ok word) u ∧
      u.call .skip (grammar.kindOf (.token (.pattern blankPattern)))
        (grammar.run room (.token (.pattern blankPattern))) [] = .finished (.ok skipped') v ∧
      s.Onward v ∧ v.rest = rest := by
  obtain ⟨skipped, t, hskip, htOnward, ht⟩ :=
    skip_blanks hs .none hrest (hvisible (inner.text ++ rest))
  have htAllows := htOnward.frame.allows hs
  obtain ⟨u, hopen, huOnward, hu⟩ := Grammar.call_literal (g := grammar) htAllows ht .parse
  obtain ⟨skipped', v, hskip', hvOnward, hv⟩ :=
    skip_blanks (huOnward.frame.allows htAllows) inner hu hspace
  exact ⟨skipped, t, u, skipped', v, hskip, hopen, hskip',
    (htOnward.trans huOnward).trans hvOnward, hv⟩

section Arrays

theorem Items.yielded_last {item : Tree} (hitem : item.Yielded) (after : Blanks) :
    (last item after).Yielded := by
  intro sofar rounds room s before rest hs hrest hrounds
  obtain ⟨n, rfl⟩ : ∃ n, rounds = n + 1 := ⟨rounds - 1, by omega⟩
  rw [spelling, List.append_assoc] at hrest
  obtain ⟨u, skipped, v, hcall, hskip, honward, hv⟩ :=
    call_item hitem hs before after hrest (by decide)
  have hcomma : ",".toList.isPrefixOf v.rest = false := by
    rw [hv]
    rfl
  obtain ⟨failure, w, hend, -, hw⟩ :=
    Grammar.call_literal_refused (g := grammar) (honward.frame.allows hs) hcomma .parse
  refine ⟨w, ?_, hw.trans hv⟩
  have hrun : (itemsFrom (n + 1) sofar).run grammar.kindOf (grammar.run room) s =
      .finished (.ok (item.value :: sofar).reverse) w :=
    (run_call hcall).trans ((run_call hskip).trans (run_call hend))
  rw [hrun, List.reverse_cons]
  rfl

theorem itemsFrom_round {item : Tree} (hitem : item.Yielded)
    (hs : s.Allows room (item.need 0 + 1)) (n : Nat) (sofar : List Value) (front after : Blanks)
    (hrest : s.rest = front.text ++ (item.spelling ++ (after.text ++ ',' :: rest))) :
    ∃ u, s.Onward u ∧ u.rest = rest ∧
      (itemsFrom (n + 1) sofar).run grammar.kindOf (grammar.run room) s =
        (itemsFrom n (item.value :: sofar)).run grammar.kindOf (grammar.run room) u := by
  obtain ⟨u, skipped, v, hcall, hskip, honward, hv⟩ :=
    call_item hitem hs front after hrest (by decide)
  have hcomma : v.rest = ",".toList ++ rest := hv
  obtain ⟨w, hread, hwOnward, hw⟩ :=
    Grammar.call_literal (g := grammar) (honward.frame.allows hs) hcomma .parse
  exact ⟨w, honward.trans hwOnward, hw, (run_call hcall).trans ((run_call hskip).trans
    (run_call hread))⟩

theorem Items.yielded_more {item : Tree} (hitem : item.Yielded) (after before : Blanks)
    {others : Items} (hothers : others.Yielded) : (more item after before others).Yielded := by
  intro sofar rounds room s front rest hs hrest hrounds
  obtain ⟨n, rfl⟩ : ∃ n, rounds = n + 1 := ⟨rounds - 1, by omega⟩
  have hneed : (more item after before others).need 0 = max (item.need 0) (others.need 0) := rfl
  have hrest' : s.rest = front.text ++ (item.spelling ++ (after.text ++
      ',' :: (before.text ++ (others.spelling ++ ']' :: rest)))) := by
    rw [hrest, spelling]
    simp
  obtain ⟨w, honward, hw, hstep⟩ :=
    itemsFrom_round hitem (hs.mono (by omega)) n sofar front after hrest'
  have hshort : w.rest.length < n := by
    have hlength := congrArg List.length hrest'
    simp only [← hw, List.length_append, List.length_cons] at hlength
    omega
  obtain ⟨x, hrun, hx⟩ := hothers (item.value :: sofar)
    ((honward.frame.allows hs).mono (by omega)) hw hshort
  refine ⟨x, ?_, hx⟩
  rw [hstep, hrun, values, List.reverse_cons, List.append_assoc]
  rfl

theorem Items.exists_cons (items : Items) :
    ∃ c cs, items.spelling = c :: cs ∧ isOpening c = true := by
  cases items with
  | last item after =>
    obtain ⟨c, cs, hspelling, hopening⟩ := item.exists_cons
    refine ⟨c, cs ++ after.text, ?_, hopening⟩
    rw [spelling, hspelling]
    rfl
  | more item after before others =>
    obtain ⟨c, cs, hspelling, hopening⟩ := item.exists_cons
    refine ⟨c, cs ++ (after.text ++ ',' :: (before.text ++ others.spelling)), ?_, hopening⟩
    rw [spelling, hspelling]
    rfl

theorem arrayBody_empty (inner : Blanks) (hs : s.Allows room 1)
    (hrest : s.rest = "[".toList ++ (inner.text ++ ("]".toList ++ rest))) :
    (arrayBody.run grammar.kindOf (grammar.run room) s).Yields [] rest := by
  have hvisible : ∀ rest, Avoids isSpace ("[".toList ++ rest) :=
    fun rest => avoids_mark (by decide) rest
  obtain ⟨_, t, u, _, v, hskip, hopen, hskip', honward, hv⟩ :=
    call_opening hs hvisible inner hrest
    (avoids_mark (by decide) rest)
  obtain ⟨w, hclose, -, hw⟩ :=
    Grammar.call_literal (g := grammar) (honward.frame.allows hs) hv .parse
  exact ⟨w, (run_call hskip).trans ((run_call hopen).trans ((run_call hskip').trans
    (run_call hclose))), hw⟩

theorem arrayBody_opened {height : Nat} (before : Blanks) (hs : s.Allows room (height + 1))
    {c : Char} {cs : List Char} (hopening : isOpening c = true)
    (hrest : s.rest = "[".toList ++ (before.text ++ c :: cs)) :
    ∃ u, s.Onward u ∧ u.rest = c :: cs ∧
      arrayBody.run grammar.kindOf (grammar.run room) s =
        (itemsFrom (u.rest.length + 1) [] >>= fun values => parse (lit "]") >>= fun _ =>
          pure values : Script Yield (List Value)).run grammar.kindOf (grammar.run room) u := by
  obtain ⟨hlow, hhigh, hbracket⟩ := isOpening_visible hopening
  have hvisible : ∀ rest, Avoids isSpace ("[".toList ++ rest) :=
    fun rest => avoids_mark (by decide) rest
  have hspace : Avoids isSpace (c :: cs) := Text.avoids_cons (isSpace_eq_false hlow hhigh) _
  obtain ⟨_, t, u, _, v, hskip, hopen, hskip', honward, hv⟩ :=
    call_opening hs hvisible before hrest hspace
  have hmore : "]".toList.isPrefixOf v.rest = false := by
    rw [hv]
    change (']' == c && _) = false
    rw [beq_eq_false_iff_ne.mpr hbracket.symm, Bool.false_and]
  obtain ⟨failure, w, hnot, hwOnward, hw⟩ :=
    Grammar.call_literal_refused (g := grammar) (honward.frame.allows hs) hmore .parse
  exact ⟨w, honward.trans hwOnward, hw.trans hv, (run_call hskip).trans ((run_call hopen).trans
    ((run_call hskip').trans (run_call hnot)))⟩

theorem arrayBody_items {height : Nat} (before : Blanks) (items : Items)
    (hs : s.Allows room (height + 1))
    (hrest : s.rest = "[".toList ++ (before.text ++ (items.spelling ++ rest))) :
    ∃ u, s.Onward u ∧ u.rest = items.spelling ++ rest ∧
      arrayBody.run grammar.kindOf (grammar.run room) s =
        (itemsFrom (u.rest.length + 1) [] >>= fun values => parse (lit "]") >>= fun _ =>
          pure values : Script Yield (List Value)).run grammar.kindOf (grammar.run room) u := by
  obtain ⟨c, cs, hspelling, hopening⟩ := items.exists_cons
  rw [hspelling] at hrest ⊢
  exact arrayBody_opened before hs hopening hrest

theorem arrayBody_yields (before : Blanks) {items : Items} (hitems : items.Yielded)
    (hs : s.Allows room (items.need 0 + 1))
    (hrest : s.rest = "[".toList ++ (before.text ++ (items.spelling ++ ']' :: rest))) :
    (arrayBody.run grammar.kindOf (grammar.run room) s).Yields items.values rest := by
  obtain ⟨u, honward, hu, hrun⟩ := arrayBody_items before items hs hrest
  have huAllows := honward.frame.allows hs
  have huItems : u.rest = Blanks.none.text ++ (items.spelling ++ ']' :: rest) := hu
  obtain ⟨x, hread, hx⟩ := hitems [] huAllows huItems (Nat.lt_succ_self _)
  have hxOnward := Grammar.run_onward (g := grammar) _ huAllows.fits hread
  have hbracket : x.rest = "]".toList ++ rest := hx
  obtain ⟨y, hclose, -, hy⟩ :=
    Grammar.call_literal (g := grammar) (hxOnward.frame.allows huAllows) hbracket .parse
  refine ⟨y, ?_, hy⟩
  rw [hrun]
  exact (run_bind_of_ok hread).trans (run_call hclose)

theorem Tree.yielded_emptyArray (inner : Blanks) : (emptyArray inner).Yielded := by
  intro room s before rest hs hrest hfollows
  obtain ⟨u, honward, hu, hrun⟩ :=
    valueBody_array hrest ((emptyArray inner).avoids_isSpace rest) hs rfl
  have htext : u.rest = "[".toList ++ (inner.text ++ ("]".toList ++ rest)) := by
    rw [hu, spelling]
    simp
  exact valueBody_yields_kind (honward.frame.allows hs) hrun fun _ hallows =>
    arrayBody_empty inner hallows htext

theorem Tree.yielded_array (inner : Blanks) {items : Items} (hitems : items.Yielded) :
    (array inner items).Yielded := by
  intro room s before rest hs hrest hfollows
  have hneed : (array inner items).need 0 = items.need 0 + 1 + 1 := items.need_add 2 0 |>.trans
    (Nat.add_comm _ _)
  rw [hneed] at hs
  obtain ⟨u, honward, hu, hrun⟩ :=
    valueBody_array hrest ((array inner items).avoids_isSpace rest) hs rfl
  have htext : u.rest = "[".toList ++ (inner.text ++ (items.spelling ++ ']' :: rest)) := by
    rw [hu, spelling]
    simp
  exact valueBody_yields_kind (honward.frame.allows hs) hrun fun _ hallows =>
    arrayBody_yields inner hitems hallows htext

end Arrays

section Objects

/-- A round of an object up to its key, which is then looked for among those read so far. -/
theorem membersFrom_reads_key (hs : s.Allows room 2) (n : Nat) (members : Object) (key : Quoted)
    (before : Blanks) (hrest : s.rest = before.text ++ (key.text ++ rest)) :
    ∃ t u, s.Onward t ∧ t.rest = key.text ++ rest ∧ t.Onward u ∧ u.rest = rest ∧
      u.lastFailure = none ∧
      (membersFrom (n + 1) members).run grammar.kindOf (grammar.run room) s =
        (if members.contains key.value then duplicateKey t.location key.value
          else blanks >>= fun _ => parse (lit ":") >>= fun _ =>
            itemFor n members t.location key.value : Script Yield Object).run
          grammar.kindOf (grammar.run room) u := by
  have hquote : Avoids isSpace (key.text ++ rest) := avoids_mark (by decide) _
  obtain ⟨_, t, hskip, htOnward, ht⟩ := skip_blanks hs before hrest hquote
  obtain ⟨u, hkey, huOnward, hu⟩ :=
    Grammar.call_yields (g := grammar) (c := .rule .string) (htOnward.frame.allows hs) []
      (fun _ hallows => stringBody_yields key hallows ht) .parse
  exact ⟨t, u, htOnward, ht, huOnward, hu, Scanner.lastFailure_of_call_ok hkey,
    (run_call hskip).trans (run_call hkey)⟩

theorem membersFrom_key (hs : s.Allows room 2) (n : Nat) {members : Object} (key : Quoted)
    (before behindKey : Blanks)
    (hrest : s.rest = before.text ++ (key.text ++ (behindKey.text ++ (":".toList ++ rest))))
    (hnew : key.value ∉ members.keys) :
    ∃ start v, s.Onward v ∧ v.rest = rest ∧
      (membersFrom (n + 1) members).run grammar.kindOf (grammar.run room) s =
        (itemFor n members start key.value).run grammar.kindOf (grammar.run room) v := by
  have hcolon : Avoids isSpace (":".toList ++ rest) :=
    avoids_mark (by decide) _
  obtain ⟨t, u, htOnward, -, huOnward, hu, -, hstep⟩ :=
    membersFrom_reads_key hs n members key before hrest
  have htu := htOnward.trans huOnward
  obtain ⟨_, v, hskip, hvOnward, hv⟩ := skip_blanks (htu.frame.allows hs) behindKey hu hcolon
  have htv := htu.trans hvOnward
  obtain ⟨w, hread, hwOnward, hw⟩ :=
    Grammar.call_literal (g := grammar) (htv.frame.allows hs) hv .parse
  refine ⟨t.location, w, htv.trans hwOnward, hw, ?_⟩
  rw [hstep, if_neg (mt (members.contains_iff _).mp hnew)]
  exact (run_call hskip).trans (run_call hread)

theorem Entries.yielded_last (key : Quoted) (behindKey beforeItem : Blanks) {item : Tree}
    (hitem : item.Yielded) (after : Blanks) :
    (last key behindKey beforeItem item after).Yielded := by
  intro sofar rounds room s before rest hs hrest hrounds hdistinct
  obtain ⟨n, rfl⟩ : ∃ n, rounds = n + 1 := ⟨rounds - 1, by omega⟩
  have hneed : (last key behindKey beforeItem item after).need 0 = item.need 0 := rfl
  have hnew : key.value ∉ (⟨sofar⟩ : Object).keys := Members.not_mem_of_nodup hdistinct
  have hrest' : s.rest = before.text ++ (key.text ++ (behindKey.text ++ (":".toList ++
      (beforeItem.text ++ (item.spelling ++ (after.text ++ '\x7d' :: rest)))))) := by
    rw [hrest, spelling]
    simp
  obtain ⟨start, t, htOnward, ht, hstep⟩ :=
    membersFrom_key (hs.mono (Nat.le_max_left _ _)) n key before behindKey hrest' hnew
  have htAllows := htOnward.frame.allows hs
  obtain ⟨u, _, v, hcall, hskip, hvOnward, hv⟩ :=
    call_item hitem (htAllows.mono (by omega)) beforeItem after ht (by decide)
  have hcomma : ",".toList.isPrefixOf v.rest = false := by
    rw [hv]
    rfl
  obtain ⟨failure, w, hend, -, hw⟩ :=
    Grammar.call_literal_refused (g := grammar) (hvOnward.frame.allows htAllows) hcomma .parse
  refine ⟨w, ?_, hw.trans hv⟩
  rw [hstep]
  refine (run_call hcall).trans ?_
  simp only [Members.insert_of_not_mem hnew]
  exact (run_call hskip).trans (run_call hend)

theorem membersFrom_round {item : Tree} (hitem : item.Yielded) (key : Quoted)
    (hs : s.Allows room (max 2 (item.need 0 + 1))) (n : Nat) {sofar : List (String × Value)}
    (hnew : key.value ∉ (⟨sofar⟩ : Object).keys) (front behindKey beforeItem after : Blanks)
    (hrest : s.rest = front.text ++ (key.text ++ (behindKey.text ++ (":".toList ++
      (beforeItem.text ++ (item.spelling ++ (after.text ++ ',' :: rest))))))) :
    ∃ u, s.Onward u ∧ u.rest = rest ∧
      (membersFrom (n + 1) ⟨sofar⟩).run grammar.kindOf (grammar.run room) s =
        (membersFrom n ⟨sofar ++ [(key.value, item.value)]⟩).run grammar.kindOf (grammar.run room)
          u := by
  obtain ⟨start, t, htOnward, ht, hstep⟩ :=
    membersFrom_key (hs.mono (Nat.le_max_left _ _)) n key front behindKey hrest hnew
  have htAllows := htOnward.frame.allows hs
  obtain ⟨u, _, v, hcall, hskip, hvOnward, hv⟩ :=
    call_item hitem (htAllows.mono (Nat.le_max_right _ _)) beforeItem after ht (by decide)
  have hvAllows := hvOnward.frame.allows htAllows
  have hcomma : v.rest = ",".toList ++ rest := hv
  obtain ⟨w, hread, hwOnward, hw⟩ :=
    Grammar.call_literal (g := grammar) (hvAllows.mono (Nat.le_max_left 2 _)) hcomma .parse
  refine ⟨w, (htOnward.trans hvOnward).trans hwOnward, hw, ?_⟩
  rw [hstep]
  refine (run_call hcall).trans ?_
  simp only [Members.insert_of_not_mem hnew]
  exact (run_call hskip).trans (run_call hread)

theorem Entries.yielded_more (key : Quoted) (behindKey beforeItem : Blanks) {item : Tree}
    (hitem : item.Yielded) (after before : Blanks) {others : Entries}
    (hothers : others.Yielded) :
    (more key behindKey beforeItem item after before others).Yielded := by
  intro sofar rounds room s front rest hs hrest hrounds hdistinct
  obtain ⟨n, rfl⟩ : ∃ n, rounds = n + 1 := ⟨rounds - 1, by omega⟩
  have hneed : (more key behindKey beforeItem item after before others).need 0 =
      max (item.need 0) (others.need 0) := rfl
  have hmembers : sofar ++ (more key behindKey beforeItem item after before others).members =
      (sofar ++ [(key.value, item.value)]) ++ others.members := by
    rw [members, List.append_assoc]
    rfl
  have hnew : key.value ∉ (⟨sofar⟩ : Object).keys := Members.not_mem_of_nodup hdistinct
  have hrest' : s.rest = front.text ++ (key.text ++ (behindKey.text ++ (":".toList ++
      (beforeItem.text ++ (item.spelling ++ (after.text ++
        ',' :: (before.text ++ (others.spelling ++ '\x7d' :: rest)))))))) := by
    rw [hrest, spelling]
    simp
  obtain ⟨w, honward, hw, hstep⟩ := membersFrom_round hitem key (hs.mono (by omega)) n hnew front
    behindKey beforeItem after hrest'
  have hshort : w.rest.length < n := by
    have hlength := congrArg List.length hrest'
    simp only [← hw, List.length_append, List.length_cons] at hlength
    omega
  rw [hmembers] at hdistinct ⊢
  obtain ⟨x, hrun, hx⟩ := hothers (sofar ++ [(key.value, item.value)])
    ((honward.frame.allows hs).mono (by omega)) hw hshort hdistinct
  exact ⟨x, hstep.trans hrun, hx⟩

theorem Entries.exists_cons (entries : Entries) : ∃ cs, entries.spelling = '"' :: cs := by
  cases entries with
  | last key behindKey beforeItem item after => exact ⟨_, rfl⟩
  | more key behindKey beforeItem item after before others => exact ⟨_, rfl⟩

theorem objectBody_empty (inner : Blanks) (hs : s.Allows room 1)
    (hrest : s.rest = "\x7b".toList ++ (inner.text ++ ("\x7d".toList ++ rest))) :
    (objectBody.run grammar.kindOf (grammar.run room) s).Yields Members.empty rest := by
  have hvisible : ∀ rest, Avoids isSpace ("\x7b".toList ++ rest) :=
    fun rest => avoids_mark (by decide) rest
  obtain ⟨_, t, u, _, v, hskip, hopen, hskip', honward, hv⟩ :=
    call_opening hs hvisible inner hrest
    (avoids_mark (by decide) rest)
  obtain ⟨w, hclose, -, hw⟩ :=
    Grammar.call_literal (g := grammar) (honward.frame.allows hs) hv .parse
  exact ⟨w, (run_call hskip).trans ((run_call hopen).trans ((run_call hskip').trans
    (run_call hclose))), hw⟩

theorem objectBody_opened {height : Nat} (before : Blanks) (hs : s.Allows room (height + 1))
    {cs : List Char} (hrest : s.rest = "\x7b".toList ++ (before.text ++ '"' :: cs)) :
    ∃ u, s.Onward u ∧ u.rest = '"' :: cs ∧
      objectBody.run grammar.kindOf (grammar.run room) s =
        (membersFrom (u.rest.length + 1) Members.empty >>= fun members =>
          parse (lit "\x7d") >>= fun _ => pure members : Script Yield Object).run
          grammar.kindOf (grammar.run room) u := by
  have hvisible : ∀ rest, Avoids isSpace ("\x7b".toList ++ rest) :=
    fun rest => avoids_mark (by decide) rest
  obtain ⟨_, t, u, _, v, hskip, hopen, hskip', honward, hv⟩ :=
    call_opening hs hvisible before hrest (avoids_mark (by decide) cs)
  have hmore : "\x7d".toList.isPrefixOf v.rest = false := by
    rw [hv]
    rfl
  obtain ⟨failure, w, hnot, hwOnward, hw⟩ :=
    Grammar.call_literal_refused (g := grammar) (honward.frame.allows hs) hmore .parse
  exact ⟨w, honward.trans hwOnward, hw.trans hv, (run_call hskip).trans ((run_call hopen).trans
    ((run_call hskip').trans (run_call hnot)))⟩

theorem objectBody_entries {height : Nat} (before : Blanks) (entries : Entries)
    (hs : s.Allows room (height + 1))
    (hrest : s.rest = "\x7b".toList ++ (before.text ++ (entries.spelling ++ rest))) :
    ∃ u, s.Onward u ∧ u.rest = entries.spelling ++ rest ∧
      objectBody.run grammar.kindOf (grammar.run room) s =
        (membersFrom (u.rest.length + 1) Members.empty >>= fun members =>
          parse (lit "\x7d") >>= fun _ => pure members : Script Yield Object).run
          grammar.kindOf (grammar.run room) u := by
  obtain ⟨cs, hspelling⟩ := entries.exists_cons
  rw [hspelling] at hrest ⊢
  exact objectBody_opened before hs hrest

theorem objectBody_yields (before : Blanks) {entries : Entries} (hentries : entries.Yielded)
    (hdistinct : (entries.members.map Prod.fst).Nodup)
    (hs : s.Allows room (max 2 (entries.need 0 + 1)))
    (hrest : s.rest = "\x7b".toList ++ (before.text ++ (entries.spelling ++ '\x7d' :: rest))) :
    (objectBody.run grammar.kindOf (grammar.run room) s).Yields ⟨entries.members⟩ rest := by
  have htoken : s.Allows room (1 + 1) := hs.mono (Nat.le_max_left _ _)
  obtain ⟨u, honward, hu, hrun⟩ := objectBody_entries before entries htoken hrest
  have huEntries : u.rest = Blanks.none.text ++ (entries.spelling ++ '\x7d' :: rest) := hu
  obtain ⟨x, hread, hx⟩ :=
    hentries [] (honward.frame.allows hs) huEntries (Nat.lt_succ_self _) hdistinct
  have hxOnward := Grammar.run_onward (g := grammar) _ (honward.frame.allows hs).fits hread
  have hbrace : x.rest = "\x7d".toList ++ rest := hx
  obtain ⟨y, hclose, -, hy⟩ := Grammar.call_literal (g := grammar)
    ((honward.trans hxOnward).frame.allows htoken) hbrace .parse
  refine ⟨y, ?_, hy⟩
  rw [hrun]
  exact (run_bind_of_ok hread).trans (run_call hclose)

theorem Tree.yielded_emptyObject (inner : Blanks) : (emptyObject inner).Yielded := by
  intro room s before rest hs hrest hfollows
  obtain ⟨u, honward, hu, hrun⟩ :=
    valueBody_object hrest ((emptyObject inner).avoids_isSpace rest) hs rfl
  have htext : u.rest = "\x7b".toList ++ (inner.text ++ ("\x7d".toList ++ rest)) := by
    rw [hu, spelling]
    simp
  exact valueBody_yields_kind (honward.frame.allows hs) hrun fun _ hallows =>
    objectBody_empty inner hallows htext

theorem Tree.yielded_object (inner : Blanks) {entries : Entries} (hentries : entries.Yielded)
    (hdistinct : (entries.members.map Prod.fst).Nodup) : (object inner entries).Yielded := by
  intro room s before rest hs hrest hfollows
  have hneed : (object inner entries).need 0 = max 2 (entries.need 0 + 1) + 1 := by
    have hadd : entries.need 2 = 2 + entries.need 0 := entries.need_add 2 0
    change max 3 (entries.need 2) = _
    omega
  rw [hneed] at hs
  obtain ⟨u, honward, hu, hrun⟩ :=
    valueBody_object hrest ((object inner entries).avoids_isSpace rest) hs rfl
  have htext :
      u.rest = "\x7b".toList ++ (inner.text ++ (entries.spelling ++ '\x7d' :: rest)) := by
    rw [hu, spelling]
    simp
  exact valueBody_yields_kind (honward.frame.allows hs) hrun fun _ hallows =>
    objectBody_yields inner hentries hdistinct hallows htext

end Objects

mutual

/-- Derivations without a key that comes twice are read, each with all that it is made of. -/
theorem Tree.yielded (t : Tree) (h : t.Distinct) : t.Yielded := by
  cases t with
  | constant word value hentry => exact Tree.yielded_constant word value hentry
  | number n => exact Tree.yielded_number n
  | text q => exact Tree.yielded_text q
  | emptyArray inner => exact Tree.yielded_emptyArray inner
  | array inner items => exact Tree.yielded_array inner (items.yielded h)
  | emptyObject inner => exact Tree.yielded_emptyObject inner
  | object inner entries => exact Tree.yielded_object inner (entries.yielded h.2) h.1

theorem Items.yielded (items : Items) (h : items.Distinct) : items.Yielded := by
  cases items with
  | last item after => exact Items.yielded_last (item.yielded h) after
  | more item after before others =>
    exact Items.yielded_more (item.yielded h.1) after before (others.yielded h.2)

theorem Entries.yielded (entries : Entries) (h : entries.Distinct) : entries.Yielded := by
  cases entries with
  | last key behindKey beforeItem item after =>
    exact Entries.yielded_last key behindKey beforeItem (item.yielded h) after
  | more key behindKey beforeItem item after before others =>
    exact Entries.yielded_more key behindKey beforeItem (item.yielded h.1) after before
      (others.yielded h.2)

end

end Descent.Json
