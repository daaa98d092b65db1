import Descent.Proofs.Json.Lexemes

/-!
Whatever the grammar of the data format reads has a derivation. If a run of the rule for values
comes to a value, then it read blanks and the spelling of a derivation of that value, in which no
object has a key twice and whose levels fit under the bound. The induction is on the room for
callees. Every round of a loop reads something, so that rounds do not run out while text is left.
-/
namespace Descent.Json

open Script

/-- The derivation spells what a run read from one scanner to another behind blanks, for its
value. -/
structure Tree.Spells (t : Tree) (before : Blanks) (s u : Scanner) (value : Value) : Prop where
  text : s.rest = before.text ++ (t.spelling ++ u.rest)
  value : t.value = value
  distinct : t.Distinct

/-- A run read the spelling of a derivation, which exceeds the bound by so many levels at most. -/
def Derived (above : Nat) (s u : Scanner) (value : Value) : Prop :=
  ∃ (before : Blanks) (t : Tree), t.Spells before s u value ∧
    s.depth + t.need 0 ≤ s.limits.maxDepth + above

/-- With this much room for callees, runs of the rule for values read spellings. -/
def Sound (room : Nat) : Prop :=
  ∀ ⦃s u : Scanner⦄ ⦃value : Value⦄, s.Fits room →
    valueBody.run grammar.kindOf (grammar.run room) s = .finished (.ok value) u →
    Derived 0 s u value

theorem Tree.Spells.behind {t : Tree} {before inner : Blanks} {s u start : Scanner}
    {value : Value} (h : t.Spells inner s u value)
    (hbefore : start.rest = before.text ++ s.rest) :
    t.Spells (before.append inner) start u value := by
  refine ⟨?_, h.value, h.distinct⟩
  rw [hbefore, h.text, Blanks.append, List.append_assoc]

/-- What is read behind blanks is read from in front of them as well. -/
theorem Derived.behind {before : Blanks} {start s u : Scanner} {value : Value}
    (h : Derived 0 s u value) (hbefore : start.rest = before.text ++ s.rest)
    (honward : start.Onward s) : Derived 0 start u value := by
  obtain ⟨inner, t, hspells, hdepth⟩ := h
  exact ⟨before.append inner, t, hspells.behind hbefore, honward.frame.within hdepth⟩

variable {room : Nat} {s u : Scanner}

section Leaves

theorem numberBody_sound {value : Float} (hs : s.Fits room)
    (h : numberBody.run grammar.kindOf (grammar.run room) s = .finished (.ok value) u) :
    ∃ n : Numeral, s.rest = n.text ++ u.rest ∧ n.value = value ∧
      s.depth + 1 ≤ s.limits.maxDepth := by
  obtain ⟨result, v, hcall, hrun⟩ := attempt_of_run h
  cases result with
  | error failure => cases hrun
  | ok digits =>
    obtain ⟨-, hdepth, rest, htakes, hv⟩ := Grammar.call_token_ok (g := grammar) hs hcall
    obtain ⟨n, htext, hdigits⟩ := numeral_of_takes htakes
    have hread : Decimal.readFloat? digits.toList = some n.value := by
      rw [hdigits]
      exact (Option.some_get _).symm
    dsimp only at hrun
    rw [hread] at hrun
    cases hrun
    have huRest : u.rest = rest := hv
    exact ⟨n, by rw [huRest, htext], rfl, hdepth⟩

theorem stringBody_sound {value : String} (hs : s.Fits room)
    (h : stringBody.run grammar.kindOf (grammar.run room) s = .finished (.ok value) u) :
    ∃ q : Quoted, s.rest = q.text ++ u.rest ∧ q.value = value ∧
      s.depth + 1 ≤ s.limits.maxDepth := by
  obtain ⟨_, v, hvOnward, hdepth, hquote, hrun⟩ := Grammar.literal_of_run (g := grammar) hs h
  have hvFits := hvOnward.frame.fits hs
  obtain ⟨raw, w, hbody, hrun⟩ := parse_of_run hrun
  obtain ⟨hwOnward, -, rest, htakes, hw⟩ := Grammar.call_token_ok (g := grammar) hvFits hbody
  obtain ⟨strokes, htext, hraw⟩ := strokes_of_takes htakes
  have hwRest : w.rest = rest := hw
  cases hdecode : Escape.decode raw.toList with
  | error e =>
    rw [hdecode] at hrun
    cases hrun
  | ok text =>
    rw [hdecode] at hrun
    obtain ⟨x, -, ⟨-, hclose, hrun⟩ | ⟨-, hrun⟩⟩ :=
      Grammar.succeeds_of_run (g := grammar) (hwOnward.frame.fits hvFits) hrun
    · cases hrun
      rw [hraw] at hdecode
      obtain ⟨pieces, hpieces, hchars⟩ := Escape.pieces_of_decode hdecode
      refine ⟨⟨pieces⟩, ?_, ?_, hdepth⟩
      · rw [hquote, htext, ← hwRest, hclose, hpieces, Quoted.text]
        simp [Quoted.body]
      · rw [← hchars]
        rfl
    · cases hrun

theorem constantFrom_sound {entries : List (String × Value)} {value : Value} (hs : s.Fits room)
    (h : (constantFrom entries).run grammar.kindOf (grammar.run room) s =
      .finished (.ok value) u) :
    ∃ word, (word, value) ∈ entries ∧ s.rest = word.toList ++ u.rest ∧
      s.depth + 1 ≤ s.limits.maxDepth := by
  induction entries generalizing s with
  | nil => cases h
  | cons entry entries ih =>
    obtain ⟨v, honward, ⟨hdepth, htext, hrun⟩ | ⟨hv, hrun⟩⟩ :=
      Grammar.succeeds_of_run (g := grammar) hs h
    · cases hrun
      exact ⟨entry.1, List.mem_cons_self, htext, hdepth⟩
    · obtain ⟨word, hmem, htext, hdepth⟩ := ih (honward.frame.fits hs) hrun
      exact ⟨word, List.mem_cons_of_mem _ hmem, by rw [← hv, htext], honward.frame.within hdepth⟩

end Leaves

section Keys

theorem call_key_sound {key : String} (hs : s.Fits room)
    (h : s.call .parse (grammar.kindOf (.rule .string)) (grammar.run room (.rule .string)) [] =
      .finished (.ok key) u) :
    s.Onward u ∧ ∃ q : Quoted, s.rest = q.text ++ u.rest ∧ q.value = key ∧
      s.depth + 2 ≤ s.limits.maxDepth := by
  obtain ⟨honward, -, levels, v, rfl, hfits, hdown, hrun, hrest⟩ :=
    Grammar.call_ok (g := grammar) (c := .rule .string) hs h
  obtain ⟨q, htext, hvalue, hdepth⟩ := stringBody_sound hfits hrun
  refine ⟨honward, q, ?_, hvalue, ?_⟩
  · rw [hrest]
    exact htext
  · rw [hdown] at hdepth
    exact hdepth

/-- A round up to the item: the key is new, with blanks around it and a colon behind. -/
theorem membersFrom_key_sound {rounds : Nat} {sofar result : Object} (hs : s.Fits room)
    (h : (membersFrom (rounds + 1) sofar).run grammar.kindOf (grammar.run room) s =
      .finished (.ok result) u) :
    ∃ (start : Position) (v : Scanner) (before : Blanks) (q : Quoted) (behindKey : Blanks),
      s.Onward v ∧ s.rest = before.text ++ (q.text ++ (behindKey.text ++ ':' :: v.rest)) ∧
      q.value ∉ sofar.keys ∧ s.depth + 2 ≤ s.limits.maxDepth ∧
      (itemFor rounds sofar start q.value).run grammar.kindOf (grammar.run room) v =
        .finished (.ok result) u := by
  rw [membersFrom_succ] at h
  obtain ⟨before, t, hbefore, htOnward, hrun⟩ := blanks_of_run hs h
  obtain ⟨key, v, hkey, hrun⟩ := parse_of_run (get_of_run hrun)
  obtain ⟨hvOnward, q, hquoted, rfl, hdepth⟩ := call_key_sound (htOnward.frame.fits hs) hkey
  have htv := htOnward.trans hvOnward
  by_cases hthere : sofar.contains q.value = true
  · rw [if_pos hthere] at hrun
    cases hrun
  · rw [if_neg hthere] at hrun
    have hnew : q.value ∉ sofar.keys :=
      (sofar.contains_eq_false_iff _).mp (Bool.eq_false_iff.mpr hthere)
    obtain ⟨behindKey, w, hbehindKey, hwOnward, hrun⟩ := blanks_of_run (htv.frame.fits hs) hrun
    have htw := htv.trans hwOnward
    obtain ⟨_, x, hxOnward, -, hcolon, hrun⟩ :=
      Grammar.literal_of_run (g := grammar) (htw.frame.fits hs) hrun
    refine ⟨t.location, x, before, q, behindKey, htw.trans hxOnward, ?_, hnew,
      htOnward.frame.within hdepth, hrun⟩
    rw [hbefore, hquoted, hbehindKey, hcolon]
    rfl

end Keys

section Loops

variable (ih : ∀ levels, levels < room → Sound levels)

include ih

theorem call_item_sound {value : Value} (hs : s.Fits room)
    (h : s.call .parse (grammar.kindOf (.rule .value)) (grammar.run room (.rule .value)) [] =
      .finished (.ok value) u) :
    s.Onward u ∧ ∃ (before : Blanks) (t : Tree), t.Spells before s u value ∧
      s.depth + (t.need 0 + 1) ≤ s.limits.maxDepth := by
  obtain ⟨honward, -, levels, v, rfl, hfits, hdown, hrun, hrest⟩ :=
    Grammar.call_ok (g := grammar) (c := .rule .value) hs h
  obtain ⟨before, t, ht, hdepth⟩ := ih levels (Nat.lt_succ_self _) hfits hrun
  refine ⟨honward, before, t, ⟨?_, ht.value, ht.distinct⟩, ?_⟩
  · rw [hrest]
    exact ht.text
  · rw [hdown] at hdepth
    change s.depth + 1 + t.need 0 ≤ s.limits.maxDepth + 0 at hdepth
    omega

/-- The rounds of an array. While text is left, rounds are left. -/
theorem itemsFrom_sound {rounds : Nat} {sofar result : List Value} (hs : s.Fits room)
    (hrounds : s.rest.length < rounds)
    (h : (itemsFrom rounds sofar).run grammar.kindOf (grammar.run room) s =
      .finished (.ok result) u) :
    ∃ (before : Blanks) (items : Items), s.rest = before.text ++ (items.spelling ++ u.rest) ∧
      result = sofar.reverse ++ items.values ∧ items.Distinct ∧
      s.depth + (items.need 0 + 1) ≤ s.limits.maxDepth := by
  induction rounds generalizing s sofar with
  | zero => exact absurd hrounds (Nat.not_lt_zero _)
  | succ rounds ihRounds =>
    obtain ⟨value, v, hitem, hrun⟩ := parse_of_run h
    obtain ⟨hvOnward, before, t, ht, hdepth⟩ := call_item_sound ih hs hitem
    obtain rfl := ht.value
    obtain ⟨after, w, hafter, hwOnward, hrun⟩ := blanks_of_run (hvOnward.frame.fits hs) hrun
    have hsw := hvOnward.trans hwOnward
    obtain ⟨x, hxOnward, ⟨-, hcomma, hrun⟩ | ⟨hx, hrun⟩⟩ :=
      Grammar.succeeds_of_run (g := grammar) (hsw.frame.fits hs) hrun
    · have hspelling : s.rest = before.text ++ (t.spelling ++ (after.text ++ ',' :: x.rest)) := by
        rw [ht.text, hafter, hcomma]
        rfl
      have hshort : x.rest.length < rounds := by
        have hlength := congrArg List.length hspelling
        simp only [List.length_append, List.length_cons] at hlength
        omega
      have hsx := hsw.trans hxOnward
      obtain ⟨before', others, hothers, rfl, hdistinct, hdepth'⟩ :=
        ihRounds (hsx.frame.fits hs) hshort hrun
      have hbelow := hsx.frame.within hdepth'
      refine ⟨before, .more t after before' others, ?_, ?_, ⟨ht.distinct, hdistinct⟩, ?_⟩
      · rw [hspelling, hothers, Items.spelling]
        simp
      · rw [Items.values, List.reverse_cons, List.append_assoc]
        rfl
      · change s.depth + (max (t.need 0) (others.need 0) + 1) ≤ s.limits.maxDepth
        omega
    · cases hrun
      refine ⟨before, .last t after, ?_, ?_, ht.distinct, hdepth⟩
      · rw [ht.text, hafter, hx, Items.spelling, List.append_assoc]
      · exact List.reverse_cons

theorem itemFor_sound {rounds : Nat} {sofar result : Object} {start : Position} {key : String}
    (hs : s.Fits room) (hnew : key ∉ sofar.keys)
    (h : (itemFor rounds sofar start key).run grammar.kindOf (grammar.run room) s =
      .finished (.ok result) u) :
    ∃ (before : Blanks) (t : Tree) (after : Blanks) (v : Scanner), t.Distinct ∧
      s.depth + (t.need 0 + 1) ≤ s.limits.maxDepth ∧ s.Onward v ∧
      ((s.rest = before.text ++ (t.spelling ++ (after.text ++ u.rest)) ∧
          result = ⟨sofar.entries ++ [(key, t.value)]⟩) ∨
        (s.rest = before.text ++ (t.spelling ++ (after.text ++ ',' :: v.rest)) ∧
          (membersFrom rounds ⟨sofar.entries ++ [(key, t.value)]⟩).run grammar.kindOf
            (grammar.run room) v = .finished (.ok result) u)) := by
  obtain ⟨value, v, hitem, hrun⟩ := parse_of_run h
  obtain ⟨hvOnward, before, t, ht, hdepth⟩ := call_item_sound ih hs hitem
  obtain rfl := ht.value
  rw [Members.insert_of_not_mem hnew] at hrun
  obtain ⟨after, w, hafter, hwOnward, hrun⟩ := blanks_of_run (hvOnward.frame.fits hs) hrun
  have hsw := hvOnward.trans hwOnward
  obtain ⟨x, hxOnward, ⟨-, hcomma, hrun⟩ | ⟨hx, hrun⟩⟩ :=
    Grammar.succeeds_of_run (g := grammar) (hsw.frame.fits hs) hrun
  · refine ⟨before, t, after, x, ht.distinct, hdepth, hsw.trans hxOnward, Or.inr ⟨?_, hrun⟩⟩
    rw [ht.text, hafter, hcomma]
    rfl
  · cases hrun
    refine ⟨before, t, after, w, ht.distinct, hdepth, hsw, Or.inl ⟨?_, rfl⟩⟩
    rw [ht.text, hafter, hx]

/-- The rounds of an object. While text is left, rounds are left, and no key comes twice. -/
theorem membersFrom_sound {rounds : Nat} {sofar result : Object} (hs : s.Fits room)
    (hrounds : s.rest.length < rounds) (hsofar : sofar.keys.Nodup)
    (h : (membersFrom rounds sofar).run grammar.kindOf (grammar.run room) s =
      .finished (.ok result) u) :
    ∃ (before : Blanks) (entries : Entries),
      s.rest = before.text ++ (entries.spelling ++ u.rest) ∧
      result.entries = sofar.entries ++ entries.members ∧ result.keys.Nodup ∧ entries.Distinct ∧
      s.depth + max 2 (entries.need 0 + 1) ≤ s.limits.maxDepth := by
  induction rounds generalizing s sofar with
  | zero => exact absurd hrounds (Nat.not_lt_zero _)
  | succ rounds ihRounds =>
    obtain ⟨start, v, before, q, behindKey, hvOnward, hkey, hnew, hkeyDepth, hrun⟩ :=
      membersFrom_key_sound hs h
    obtain ⟨beforeItem, t, after, w, hdistinct, hdepth, hwOnward, hend⟩ :=
      itemFor_sound ih (hvOnward.frame.fits hs) hnew hrun
    have hbelow := hvOnward.frame.within hdepth
    have hlonger := Members.nodup_snoc hsofar hnew t.value
    rcases hend with ⟨hitem, rfl⟩ | ⟨hitem, hmore⟩
    · refine ⟨before, .last q behindKey beforeItem t after, ?_, rfl, hlonger, hdistinct, ?_⟩
      · rw [hkey, hitem, Entries.spelling]
        simp
      · change s.depth + max 2 (t.need 0 + 1) ≤ s.limits.maxDepth
        omega
    · have hsw := hvOnward.trans hwOnward
      have hshort : w.rest.length < rounds := by
        have hlength := congrArg List.length hkey
        have hlength' := congrArg List.length hitem
        simp only [List.length_append, List.length_cons] at hlength hlength'
        omega
      obtain ⟨before', others, hothers, hentries, hkeys, hdistinct', hdepth'⟩ :=
        ihRounds (hsw.frame.fits hs) hshort hlonger hmore
      have hbelow' := hsw.frame.within hdepth'
      refine ⟨before, .more q behindKey beforeItem t after before' others, ?_, ?_, hkeys,
        ⟨hdistinct, hdistinct'⟩, ?_⟩
      · rw [hkey, hitem, hothers, Entries.spelling]
        simp
      · rw [hentries, Entries.members, List.append_assoc]
        rfl
      · change s.depth + max 2 (max (t.need 0) (others.need 0) + 1) ≤ s.limits.maxDepth
        omega

end Loops

section Bodies

theorem opening_sound {α : Type} {word : String} {next : Script Yield α} {value : α}
    (hs : s.Fits room)
    (h : (blanks >>= fun _ => parse (lit word) >>= fun _ => blanks >>= fun _ => next).run
      grammar.kindOf (grammar.run room) s = .finished (.ok value) u) :
    ∃ (before inner : Blanks) (v : Scanner), s.Onward v ∧ s.depth + 1 ≤ s.limits.maxDepth ∧
      s.rest = before.text ++ (word.toList ++ (inner.text ++ v.rest)) ∧
      next.run grammar.kindOf (grammar.run room) v = .finished (.ok value) u := by
  obtain ⟨before, t, hbefore, htOnward, hrun⟩ := blanks_of_run hs h
  obtain ⟨_, v, hvOnward, hdepth, hopen, hrun⟩ :=
    Grammar.literal_of_run (g := grammar) (htOnward.frame.fits hs) hrun
  have htv := htOnward.trans hvOnward
  obtain ⟨inner, w, hinner, hwOnward, hrun⟩ := blanks_of_run (htv.frame.fits hs) hrun
  refine ⟨before, inner, w, htv.trans hwOnward, htOnward.frame.within hdepth, ?_, hrun⟩
  rw [hbefore, hopen, hinner]

variable (ih : ∀ levels, levels < room → Sound levels)

include ih

theorem arrayBody_sound {result : List Value} (hs : s.Fits room)
    (h : arrayBody.run grammar.kindOf (grammar.run room) s = .finished (.ok result) u) :
    Derived 1 s u (.array result) := by
  obtain ⟨before, inner, v, hvOnward, hdepth, htext, hrun⟩ := opening_sound hs h
  obtain ⟨w, hwOnward, ⟨-, hclose, hrun⟩ | ⟨hw, hrun⟩⟩ :=
    Grammar.succeeds_of_run (g := grammar) (hvOnward.frame.fits hs) hrun
  · cases hrun
    refine ⟨before, .emptyArray inner, ⟨?_, rfl, trivial⟩, ?_⟩
    · rw [htext, hclose, Tree.spelling]
      simp
    · change s.depth + 2 ≤ s.limits.maxDepth + 1
      omega
  · have hsw := hvOnward.trans hwOnward
    have hwFits := hsw.frame.fits hs
    obtain ⟨items, x, hitems, hrun⟩ := bind_of_run (get_of_run hrun)
    obtain ⟨before', tail, hspelling, rfl, hdistinct, hneed⟩ :=
      itemsFrom_sound ih hwFits (Nat.lt_succ_self _) hitems
    have hxOnward := Grammar.run_onward (g := grammar) _ hwFits hitems
    obtain ⟨_, y, -, -, hclose, hrun⟩ :=
      Grammar.literal_of_run (g := grammar) (hxOnward.frame.fits hwFits) hrun
    cases hrun
    refine ⟨before, .array (inner.append before') tail, ⟨?_, rfl, hdistinct⟩, ?_⟩
    · rw [htext, ← hw, hspelling, hclose, Tree.spelling, Blanks.append]
      simp
    · have hadd : tail.need 2 = 2 + tail.need 0 := tail.need_add 2 0
      have hbelow := hsw.frame.within hneed
      change s.depth + tail.need 2 ≤ s.limits.maxDepth + 1
      omega

theorem objectBody_sound {result : Object} (hs : s.Fits room)
    (h : objectBody.run grammar.kindOf (grammar.run room) s = .finished (.ok result) u) :
    Derived 1 s u (.object result) := by
  obtain ⟨before, inner, v, hvOnward, hdepth, htext, hrun⟩ := opening_sound hs h
  obtain ⟨w, hwOnward, ⟨-, hclose, hrun⟩ | ⟨hw, hrun⟩⟩ :=
    Grammar.succeeds_of_run (g := grammar) (hvOnward.frame.fits hs) hrun
  · cases hrun
    refine ⟨before, .emptyObject inner, ⟨?_, rfl, trivial⟩, ?_⟩
    · rw [htext, hclose, Tree.spelling]
      simp
    · change s.depth + 2 ≤ s.limits.maxDepth + 1
      omega
  · have hsw := hvOnward.trans hwOnward
    have hwFits := hsw.frame.fits hs
    have hnone : (Members.empty : Object).keys.Nodup := List.nodup_nil
    obtain ⟨members, x, hmembers, hrun⟩ := bind_of_run (get_of_run hrun)
    obtain ⟨before', tail, hspelling, hentries, hkeys, hdistinct, hneed⟩ :=
      membersFrom_sound ih hwFits (Nat.lt_succ_self _) hnone hmembers
    have hxOnward := Grammar.run_onward (g := grammar) _ hwFits hmembers
    obtain ⟨_, y, -, -, hclose, hrun⟩ :=
      Grammar.literal_of_run (g := grammar) (hxOnward.frame.fits hwFits) hrun
    cases hrun
    have hresult : result = ⟨tail.members⟩ := congrArg Members.mk hentries
    refine ⟨before, .object (inner.append before') tail, ⟨?_, ?_, ?_, hdistinct⟩, ?_⟩
    · rw [htext, ← hw, hspelling, hclose, Tree.spelling, Blanks.append]
      simp
    · rw [hresult]
      rfl
    · rw [hresult] at hkeys
      exact hkeys
    · have hadd : tail.need 2 = 2 + tail.need 0 := tail.need_add 2 0
      have hbelow := hsw.frame.within hneed
      change s.depth + max 3 (tail.need 2) ≤ s.limits.maxDepth + 1
      omega

end Bodies

/-- A rule for one kind of value, called from the rule for values. -/
theorem call_kind_sound {r : Rule} {result : Yield r} {value : Value} (hs : s.Fits room)
    (h : s.call .parse (grammar.kindOf (.rule r)) (grammar.run room (.rule r)) [] =
      .finished (.ok result) u)
    (hbody : ∀ ⦃levels : Nat⦄ ⦃t v : Scanner⦄, levels < room → t.Fits levels →
      (body r).run grammar.kindOf (grammar.run levels) t = .finished (.ok result) v →
      Derived 1 t v value) :
    Derived 0 s u value := by
  obtain ⟨-, -, levels, v, rfl, hfits, hdown, hrun, hrest⟩ :=
    Grammar.call_ok (g := grammar) (c := .rule r) hs h
  obtain ⟨before, tree, hspells, hdepth⟩ := hbody (Nat.lt_succ_self _) hfits hrun
  refine ⟨before, tree, ⟨?_, hspells.value, hspells.distinct⟩, ?_⟩
  · rw [hrest]
    exact hspells.text
  · rw [hdown] at hdepth
    change s.depth + 1 + tree.need 0 ≤ s.limits.maxDepth + 1 at hdepth
    omega

theorem sound_step (ih : ∀ levels, levels < room → Sound levels) : Sound room := by
  intro s u value hs h
  obtain ⟨before, t, hbefore, htOnward, hrun⟩ := blanks_of_run hs h
  have hfrom : ∀ ⦃x : Scanner⦄, t.Onward x → x.rest = t.rest → Derived 0 x u value →
      Derived 0 s u value :=
    fun x hx hrest hread => hread.behind (by rw [hbefore, hrest]) (htOnward.trans hx)
  have hlower : ∀ {levels : Nat}, levels < room → ∀ lower, lower < levels → Sound lower :=
    fun hlevels lower hlt => ih lower (Nat.lt_trans hlt hlevels)
  have htFits := htOnward.frame.fits hs
  obtain ⟨isText, v, hvOnward, hv, hrun⟩ := Grammar.sees_of_run (g := grammar) htFits hrun
  have hvFits := hvOnward.frame.fits htFits
  cases isText with
  | true =>
    obtain ⟨text, w, hcall, hrun⟩ := parse_of_run hrun
    cases hrun
    refine hfrom hvOnward hv (call_kind_sound hvFits hcall ?_)
    intro levels x y hlevels hfits hbody
    obtain ⟨q, htext, rfl, hdepth⟩ := stringBody_sound hfits hbody
    exact ⟨.none, .text q, ⟨htext, rfl, trivial⟩, Nat.succ_le_succ hdepth⟩
  | false =>
    obtain ⟨isObject, w, hwOnward, hw, hrun⟩ := Grammar.sees_of_run (g := grammar) hvFits hrun
    have hwFits := hwOnward.frame.fits hvFits
    have htw := hvOnward.trans hwOnward
    cases isObject with
    | true =>
      obtain ⟨members, x, hcall, hrun⟩ := parse_of_run hrun
      cases hrun
      refine hfrom htw (hw.trans hv) (call_kind_sound hwFits hcall ?_)
      intro levels x y hlevels hfits hbody
      exact objectBody_sound (hlower hlevels) hfits hbody
    | false =>
      obtain ⟨isArray, x, hxOnward, hx, hrun⟩ := Grammar.sees_of_run (g := grammar) hwFits hrun
      have hxFits := hxOnward.frame.fits hwFits
      have htx := htw.trans hxOnward
      have hxRest : x.rest = t.rest := hx.trans (hw.trans hv)
      cases isArray with
      | true =>
        obtain ⟨items, y, hcall, hrun⟩ := parse_of_run hrun
        cases hrun
        refine hfrom htx hxRest (call_kind_sound hxFits hcall ?_)
        intro levels x y hlevels hfits hbody
        exact arrayBody_sound (hlower hlevels) hfits hbody
      | false =>
        obtain ⟨answer, y, hnumber, hrun⟩ := call_of_run hrun
        cases answer with
        | ok number =>
          cases hrun
          refine hfrom htx hxRest (call_kind_sound hxFits hnumber ?_)
          intro levels x y hlevels hfits hbody
          obtain ⟨n, htext, rfl, hdepth⟩ := numberBody_sound hfits hbody
          exact ⟨.none, .number n, ⟨htext, rfl, trivial⟩, Nat.succ_le_succ hdepth⟩
        | error failure =>
          obtain ⟨hyOnward, hy⟩ := Grammar.call_failed (g := grammar) hxFits hnumber
          obtain ⟨word, hmem, htext, hdepth⟩ :=
            constantFrom_sound (hyOnward.frame.fits hxFits) hrun
          refine hfrom (htx.trans hyOnward) (hy.trans hxRest) ?_
          exact ⟨.none, .constant word value hmem, ⟨htext, rfl, trivial⟩, hdepth⟩

theorem sound (room : Nat) : Sound room := by
  induction room using Nat.strongRecOn with
  | ind room ih => exact sound_step ih

end Descent.Json
