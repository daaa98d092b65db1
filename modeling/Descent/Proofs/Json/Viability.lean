import Descent.Proofs.Json.Failing

/-!
The data format fails no later than it must. If a run of a rule fails, and neither because of the
bound nor because of a surrogate without its other half, then the text up to the place of the
failure is the beginning of a text that the rule reads. A constant is put where a value is
missing, a new key where one is missing or comes twice, and what is open is closed; a key that is
half read is made longer than all others. The induction is on the room for callees, as for what is
read.
-/
namespace Descent.Json

open Script

/-- The bound is to blame, or a surrogate that is only half of a character. -/
def Excused (limit : Nat) (f : Failure) : Prop :=
  f.NamesBound limit ∨ ∃ code, f.message = (Escape.Error.invalidCodepoint code).message

/-- The failure is excused, or viable for some texts. -/
def Accounted (texts : List Char → Prop) (s : Scanner) (f : Failure) : Prop :=
  Excused s.limits.maxDepth f ∨ f.Viable texts s

/-- Blanks and a value, which exceeds the bound by so many levels at most. -/
def Readable (above : Nat) (s : Scanner) (text : List Char) : Prop :=
  ∃ (before : Blanks) (t : Tree), text = before.text ++ t.spelling ∧ t.Distinct ∧
    s.depth + t.need 0 ≤ s.limits.maxDepth + above

/-- A text in quotes that is none of the keys, in a rule that the bound admits. -/
def ReadableKey (keys : List String) (s : Scanner) (text : List Char) : Prop :=
  ∃ q : Quoted, text = q.text ∧ q.value ∉ keys ∧ s.depth + 1 ≤ s.limits.maxDepth

def ReadableItems (s : Scanner) (text : List Char) : Prop :=
  ∃ (before : Blanks) (items : Items), text = before.text ++ items.spelling ∧ items.Distinct ∧
    s.depth + (items.need 0 + 1) ≤ s.limits.maxDepth

/-- Blanks and the entries of an object, behind those read so far. -/
def ReadableEntries (sofar : Object) (s : Scanner) (text : List Char) : Prop :=
  ∃ (before : Blanks) (entries : Entries), text = before.text ++ entries.spelling ∧
    ((sofar.entries ++ entries.members).map Prod.fst).Nodup ∧ entries.Distinct ∧
    s.depth + max 2 (entries.need 0 + 1) ≤ s.limits.maxDepth

/-- A constant, to put where a value is missing. -/
def Tree.null : Tree := .constant "null" .null (by simp [constants])

section Accounts

variable {texts texts' : List Char → Prop} {s t : Scanner} {f : Failure} {front : List Char}

theorem Accounted.behind (h : Accounted texts t f) (honward : s.Onward t)
    (hrest : s.rest = front ++ t.rest)
    (htexts : ∀ text, texts text → ∃ more, texts' (front ++ (text ++ more))) :
    Accounted texts' s f := by
  rcases h with hexcused | hviable
  · left
    rwa [← honward.frame.limits]
  · exact Or.inr (hviable.behind honward hrest htexts)

theorem Accounted.imp (h : Accounted texts s f) (htexts : ∀ text, texts text → texts' text) :
    Accounted texts' s f :=
  h.behind (.refl s) (List.nil_append _).symm fun text htext =>
    ⟨[], by simpa using htexts text htext⟩

theorem Accounted.of_bound (honward : s.Onward t) (h : f.NamesBound t.limits.maxDepth) :
    Accounted texts s f := by
  rw [honward.frame.limits] at h
  exact Or.inl (Or.inl h)

/-- Where a token is missed, the bound is to blame, or one could stand. -/
theorem Accounted.of_missed {token : Token} {reason : Reason} (honward : s.Onward t)
    (hrest : s.rest = front ++ t.rest) (h : token.Missed t reason)
    (htexts : s.depth + 1 ≤ s.limits.maxDepth → ∃ more, texts (front ++ more)) :
    Accounted texts s (.ofReason t.location reason) := by
  rcases h with ⟨-, rfl⟩ | ⟨hadmits, -⟩
  · exact .of_bound honward (Failure.namesBound_tooDeep _ _)
  · obtain ⟨more, hmore⟩ := htexts (honward.frame.within hadmits)
    exact Or.inr (.of_location honward hrest rfl more hmore)

end Accounts

variable {room : Nat} {s u : Scanner} {f : Failure}

section Texts

/-- A text in quotes can be gone on with to one that is none of a few keys. -/
theorem exists_apart (pieces : List Piece) (keys : List String) :
    ∃ (q : Quoted) (more : List Char),
      q.text = '"' :: (pieces.flatMap Piece.text ++ more) ∧ q.value ∉ keys := by
  obtain ⟨n, hn⟩ : ∃ n, ∀ key ∈ keys, key.toList.length < n := by
    induction keys with
    | nil => exact ⟨0, fun key hkey => absurd hkey List.not_mem_nil⟩
    | cons key keys ih =>
      obtain ⟨n, hn⟩ := ih
      refine ⟨max n (key.toList.length + 1), fun other hother => ?_⟩
      rcases List.mem_cons.mp hother with rfl | hmem
      · omega
      · have hlt := hn other hmem
        omega
  let filler : Piece := .plain 'a' (by decide +kernel)
  refine ⟨⟨pieces ++ List.replicate n filler⟩,
    (List.replicate n filler).flatMap Piece.text ++ ['"'], ?_, fun hmem => ?_⟩
  · simp [Quoted.text, Quoted.body]
  · have hlt := hn _ hmem
    rw [Quoted.value, String.toList_ofList, List.length_map, List.length_append,
      List.length_replicate] at hlt
    omega

theorem stringBody_accounted (keys : List String) (hs : s.Ready room)
    (h : stringBody.run grammar.kindOf (grammar.run room) s = .finished (.error f) u) :
    Accounted (ReadableKey keys s) s f := by
  rcases stringBody_error_cases hs h with ⟨reason, hmissed, rfl⟩ |
    ⟨hadmits, pieces, t, reason, honward, hrest, -, rfl⟩ | ⟨location, code, rfl⟩
  · refine .of_missed (.refl s) (List.nil_append _).symm hmissed fun hadmits => ?_
    obtain ⟨q, more, htext, hnew⟩ := exists_apart [] keys
    exact ⟨_, q, htext.symm, hnew, hadmits⟩
  · obtain ⟨q, more, htext, hnew⟩ := exists_apart pieces keys
    exact Or.inr (.of_location honward hrest rfl more ⟨q, htext.symm, hnew, hadmits⟩)
  · exact Or.inl (Or.inr ⟨code, rfl⟩)

end Texts

/-- A new key, with a constant for its item. -/
theorem readable_key {sofar : Object} {q : Quoted} (hsofar : sofar.keys.Nodup)
    (hnew : q.value ∉ sofar.keys) (hdepth : s.depth + 2 ≤ s.limits.maxDepth)
    (before behindKey : Blanks) :
    ReadableEntries sofar s
      (before.text ++ (q.text ++ (behindKey.text ++ ':' :: Tree.null.spelling))) := by
  refine ⟨before, .last q behindKey .none .null .none, by simp [Entries.spelling, Blanks.none],
    Members.nodup_snoc hsofar hnew Value.null, trivial, hdepth⟩

/-- With this much room for callees, the failures of the rule for values are accounted for. -/
def FailsViably (room : Nat) : Prop :=
  ∀ ⦃s u : Scanner⦄ ⦃f : Failure⦄, s.Ready room →
    valueBody.run grammar.kindOf (grammar.run room) s = .finished (.error f) u →
    Accounted (Readable 0 s) s f

section Loops

variable (ih : ∀ levels, levels < room → FailsViably levels)

theorem call_key_accounted (keys : List String) (hs : s.Ready room)
    (h : s.call .parse (grammar.kindOf (.rule .string)) (grammar.run room (.rule .string)) [] =
      .finished (.error f) u) :
    Accounted (fun text => ∃ q : Quoted, text = q.text ∧ q.value ∉ keys ∧
      s.depth + 2 ≤ s.limits.maxDepth) s f := by
  rcases Grammar.call_error_cases (g := grammar) (c := .rule .string) hs h with
    hbound | ⟨-, levels, v, -, hentered, hdown, hrun⟩
  · exact .of_bound (.refl s) hbound
  · have haccounted : Accounted (ReadableKey keys (s.entered [])) s f :=
      stringBody_accounted keys hentered hrun
    refine haccounted.imp fun text htext => ?_
    obtain ⟨q, hq, hnew, hdepth⟩ := htext
    rw [hdown] at hdepth
    exact ⟨q, hq, hnew, hdepth⟩

include ih

theorem call_item_accounted (hs : s.Ready room)
    (h : s.call .parse (grammar.kindOf (.rule .value)) (grammar.run room (.rule .value)) [] =
      .finished (.error f) u) :
    Accounted (fun text => ∃ (before : Blanks) (t : Tree), text = before.text ++ t.spelling ∧
      t.Distinct ∧ s.depth + (t.need 0 + 1) ≤ s.limits.maxDepth) s f := by
  rcases Grammar.call_error_cases (g := grammar) (c := .rule .value) hs h with
    hbound | ⟨-, levels, v, rfl, hentered, hdown, hrun⟩
  · exact .of_bound (.refl s) hbound
  · have haccounted : Accounted (Readable 0 (s.entered [])) s f :=
      ih levels (Nat.lt_succ_self _) hentered hrun
    refine haccounted.imp fun text htext => ?_
    obtain ⟨before, t, ht, hdistinct, hdepth⟩ := htext
    refine ⟨before, t, ht, hdistinct, ?_⟩
    rw [hdown] at hdepth
    change s.depth + 1 + t.need 0 ≤ s.limits.maxDepth + 0 at hdepth
    omega

theorem itemsFrom_accounted {rounds : Nat} {sofar : List Value} (hs : s.Ready room)
    (h : (itemsFrom rounds sofar).run grammar.kindOf (grammar.run room) s =
      .finished (.error f) u) : Accounted (ReadableItems s) s f := by
  induction rounds generalizing s u sofar with
  | zero => cases h
  | succ rounds ihRounds =>
    cases itemsFrom_error_cases hs h with
    | item hitem =>
      obtain ⟨v, hitem⟩ := hitem
      refine (call_item_accounted ih hs hitem).imp ?_
      rintro text ⟨before, t, rfl, hdistinct, hdepth⟩
      exact ⟨before, .last t .none, by simp [Items.spelling, Blanks.none], hdistinct, hdepth⟩
    | behind before item after sofar' t v honward hrest hdistinct hdepth hrun =>
      refine (ihRounds (honward.ready hs) hrun).behind honward hrest ?_
      rintro text ⟨before', others, rfl, hdistinct', hdepth'⟩
      refine ⟨[], before, .more item after before' others, by simp [Items.spelling],
        ⟨hdistinct, hdistinct'⟩, ?_⟩
      have hbelow := honward.frame.within hdepth'
      change s.depth + (max (item.need 0) (others.need 0) + 1) ≤ s.limits.maxDepth
      omega

theorem membersFrom_accounted {rounds : Nat} {sofar : Object} (hs : s.Ready room)
    (hsofar : sofar.keys.Nodup)
    (h : (membersFrom rounds sofar).run grammar.kindOf (grammar.run room) s =
      .finished (.error f) u) : Accounted (ReadableEntries sofar s) s f := by
  induction rounds generalizing s u sofar with
  | zero => cases h
  | succ rounds ihRounds =>
    cases membersFrom_error_cases hs h with
    | key before t honward hrest hkey =>
      obtain ⟨v, hkey⟩ := hkey
      refine (call_key_accounted sofar.keys (honward.ready hs) hkey).behind honward hrest ?_
      rintro text ⟨q, rfl, hnew, hdepth⟩
      exact ⟨_, readable_key hsofar hnew (honward.frame.within hdepth) before .none⟩
    | again before q rest hrest hthere hdepth hf =>
      obtain ⟨other, more, hother, hnew⟩ := exists_apart [] sofar.keys
      exact Or.inr ⟨before.text, q.text ++ rest, _, hrest, by rw [hf]; rfl,
        readable_key hsofar hnew hdepth before .none⟩
    | colon before q behindKey t reason honward hrest hnew hdepth hmissed hf =>
      rw [hf]
      refine .of_missed honward hrest hmissed fun _ => ⟨':' :: Tree.null.spelling, ?_⟩
      simpa using readable_key hsofar hnew hdepth before behindKey
    | item before q behindKey t honward hrest hnew hdepth hitem =>
      obtain ⟨v, hitem⟩ := hitem
      refine (call_item_accounted ih (honward.ready hs) hitem).behind honward hrest ?_
      rintro text ⟨before', item, rfl, hdistinct, hdepth'⟩
      refine ⟨[], before, .last q behindKey before' item .none, ?_, ?_, hdistinct, ?_⟩
      · simp [Entries.spelling, Blanks.none]
      · exact Members.nodup_snoc hsofar hnew item.value
      · have hbelow := honward.frame.within hdepth'
        change s.depth + max 2 (item.need 0 + 1) ≤ s.limits.maxDepth
        omega
    | behind before q behindKey beforeItem item after t v honward hrest hnew hdistinct hdepth
        hrun =>
      have hlonger := Members.nodup_snoc hsofar hnew item.value
      refine (ihRounds (honward.ready hs) hlonger hrun).behind honward hrest ?_
      rintro text ⟨before', entries, rfl, hkeys, hdistinct', hdepth'⟩
      refine ⟨[], before, .more q behindKey beforeItem item after before' entries, ?_, ?_,
        ⟨hdistinct, hdistinct'⟩, ?_⟩
      · simp [Entries.spelling]
      · rw [List.append_assoc] at hkeys
        exact hkeys
      · have hbelow := honward.frame.within hdepth'
        change s.depth + max 2 (max (item.need 0) (entries.need 0) + 1) ≤ s.limits.maxDepth
        omega

end Loops

section Bodies

/-- Something between two marks fails inside of them, or for want of one of them. -/
theorem bracketed_accounted {α : Type} {opening closing : String} {none : α}
    {loop : Nat → Script Yield α} (inside : Scanner → List Char → Prop) (hs : s.Ready room)
    (h : (bracketed opening closing none loop).run grammar.kindOf (grammar.run room) s =
      .finished (.error f) u)
    (hempty : s.depth + 1 ≤ s.limits.maxDepth → ∀ before : Blanks,
      Readable 1 s (before.text ++ (opening.toList ++ closing.toList)))
    (hreadable : ∀ (before inner : Blanks) (text : List Char), inside s text →
      Readable 1 s ((before.text ++ (opening.toList ++ inner.text)) ++ (text ++ closing.toList)))
    (hframe : ∀ {w : Scanner} {text : List Char}, s.Onward w → inside w text → inside s text)
    (hfails : ∀ {w x : Scanner}, w.Ready room →
      (loop (w.rest.length + 1)).run grammar.kindOf (grammar.run room) w =
        .finished (.error f) x → Accounted (inside w) w f)
    (hends : ∀ {w x : Scanner} {value : α}, w.Ready room →
      (loop (w.rest.length + 1)).run grammar.kindOf (grammar.run room) w =
        .finished (.ok value) x → ∃ text, inside w text ∧ w.rest = text ++ x.rest) :
    Accounted (Readable 1 s) s f := by
  cases bracketed_error_cases hs h with
  | opening before t reason honward hrest hmissed hf =>
    rw [hf]
    exact .of_missed honward hrest hmissed fun hadmits => ⟨_, hempty hadmits before⟩
  | inside before inner t v honward hrest hrun =>
    refine (hfails (honward.ready hs) hrun).behind honward hrest fun text htext => ?_
    exact ⟨closing.toList, hreadable before inner text (hframe honward htext)⟩
  | closing before inner t value v reason honward hrest hrun honward' hmissed hf =>
    obtain ⟨text, htext, htextRest⟩ := hends (honward.ready hs) hrun
    rw [htextRest, ← List.append_assoc] at hrest
    rw [hf]
    refine .of_missed (honward.trans honward') hrest hmissed fun _ => ⟨closing.toList, ?_⟩
    rw [List.append_assoc]
    exact hreadable before inner text (hframe honward htext)

variable (ih : ∀ levels, levels < room → FailsViably levels)

include ih

theorem arrayBody_accounted (hs : s.Ready room)
    (h : arrayBody.run grammar.kindOf (grammar.run room) s = .finished (.error f) u) :
    Accounted (Readable 1 s) s f := by
  rw [arrayBody_eq] at h
  refine bracketed_accounted ReadableItems hs h ?_ ?_ ?_ ?_ ?_
  · intro hadmits before
    exact ⟨before, .emptyArray .none, rfl, trivial, Nat.succ_le_succ hadmits⟩
  · rintro before inner text ⟨before', items, rfl, hdistinct, hdepth⟩
    refine ⟨before, .array (inner.append before') items, ?_, hdistinct, ?_⟩
    · simp [Tree.spelling, Blanks.append]
    · have hadd : items.need 2 = 2 + items.need 0 := items.need_add 2 0
      change s.depth + items.need 2 ≤ s.limits.maxDepth + 1
      omega
  · rintro w text honward ⟨before', items, htext, hdistinct, hdepth⟩
    exact ⟨before', items, htext, hdistinct, honward.frame.within hdepth⟩
  · exact fun hw hloop => itemsFrom_accounted ih hw hloop
  · intro w x value hw hloop
    obtain ⟨before', items, hspelling, -, hdistinct, hdepth⟩ :=
      itemsFrom_sound (fun levels _ => sound levels) hw.ample.fits (Nat.lt_succ_self _) hloop
    rw [← List.append_assoc] at hspelling
    exact ⟨_, ⟨before', items, rfl, hdistinct, hdepth⟩, hspelling⟩

theorem objectBody_accounted (hs : s.Ready room)
    (h : objectBody.run grammar.kindOf (grammar.run room) s = .finished (.error f) u) :
    Accounted (Readable 1 s) s f := by
  have hnone : (Members.empty : Object).keys.Nodup := List.nodup_nil
  rw [objectBody_eq] at h
  refine bracketed_accounted (ReadableEntries Members.empty) hs h ?_ ?_ ?_ ?_ ?_
  · intro hadmits before
    exact ⟨before, .emptyObject .none, rfl, trivial, Nat.succ_le_succ hadmits⟩
  · rintro before inner text ⟨before', entries, rfl, hkeys, hdistinct, hdepth⟩
    refine ⟨before, .object (inner.append before') entries, ?_, ⟨hkeys, hdistinct⟩, ?_⟩
    · simp [Tree.spelling, Blanks.append]
    · have hadd : entries.need 2 = 2 + entries.need 0 := entries.need_add 2 0
      change s.depth + max 3 (entries.need 2) ≤ s.limits.maxDepth + 1
      omega
  · rintro w text honward ⟨before', entries, htext, hkeys, hdistinct, hdepth⟩
    exact ⟨before', entries, htext, hkeys, hdistinct, honward.frame.within hdepth⟩
  · exact fun hw hloop => membersFrom_accounted ih hw hnone hloop
  · intro w x value hw hloop
    obtain ⟨before', entries, hspelling, hentries, hkeys, hdistinct, hdepth⟩ :=
      membersFrom_sound (fun levels _ => sound levels) hw.ample.fits (Nat.lt_succ_self _) hnone
        hloop
    rw [← List.append_assoc] at hspelling
    have hvalue : value = ⟨entries.members⟩ := congrArg Members.mk hentries
    rw [hvalue] at hkeys
    exact ⟨_, ⟨before', entries, rfl, hkeys, hdistinct, hdepth⟩, hspelling⟩

end Bodies

theorem call_kind_accounted {r : Rule} (hs : s.Ready room)
    (h : s.call .parse (grammar.kindOf (.rule r)) (grammar.run room (.rule r)) [] =
      .finished (.error f) u)
    (hbody : ∀ ⦃levels : Nat⦄ ⦃t v : Scanner⦄, levels < room → t.Ready levels →
      (body r).run grammar.kindOf (grammar.run levels) t = .finished (.error f) v →
      Accounted (Readable 1 t) t f) :
    Accounted (Readable 0 s) s f := by
  rcases Grammar.call_error_cases (g := grammar) (c := .rule r) hs h with
    hbound | ⟨-, levels, v, rfl, hentered, hdown, hrun⟩
  · exact .of_bound (.refl s) hbound
  · have haccounted : Accounted (Readable 1 (s.entered [])) s f :=
      hbody (Nat.lt_succ_self _) hentered hrun
    refine haccounted.imp fun text htext => ?_
    obtain ⟨before, t, ht, hdistinct, hdepth⟩ := htext
    refine ⟨before, t, ht, hdistinct, ?_⟩
    rw [hdown] at hdepth
    change s.depth + 1 + t.need 0 ≤ s.limits.maxDepth + 1 at hdepth
    omega

theorem call_kinds_accounted (ih : ∀ levels, levels < room → FailsViably levels)
    (hs : s.Ready room) {r : Rule} (hkind : r ∈ [Rule.string, .object, .array])
    (h : CallFails room r s f) : Accounted (Readable 0 s) s f := by
  have hlower : ∀ {levels : Nat}, levels < room → ∀ lower, lower < levels → FailsViably lower :=
    fun hlevels lower hlt => ih lower (Nat.lt_trans hlt hlevels)
  obtain ⟨v, hcall⟩ := h
  refine call_kind_accounted hs hcall fun levels t w hlevels ht hbody => ?_
  simp only [List.mem_cons, List.not_mem_nil, or_false] at hkind
  rcases hkind with rfl | rfl | rfl
  · refine (stringBody_accounted [] ht hbody).imp ?_
    rintro text ⟨q, rfl, -, hdepth⟩
    exact ⟨.none, .text q, rfl, trivial, Nat.succ_le_succ hdepth⟩
  · exact objectBody_accounted (hlower hlevels) ht hbody
  · exact arrayBody_accounted (hlower hlevels) ht hbody

theorem viability_step (ih : ∀ levels, levels < room → FailsViably levels) :
    FailsViably room := by
  intro s u f hs h
  cases valueBody_error_cases hs h with
  | kind before t honward hrest r hkind hcall =>
    refine (call_kinds_accounted ih (honward.ready hs) hkind hcall).behind honward hrest ?_
    rintro text ⟨inner, tree, rfl, hdistinct, hdepth⟩
    refine ⟨[], before.append inner, tree, ?_, hdistinct, honward.frame.within hdepth⟩
    simp [Blanks.append]
  | unknown before t reason honward hrest _ hmissed hf =>
    rw [hf]
    rcases hmissed with ⟨-, rfl⟩ | ⟨hadmits, -⟩
    · exact .of_bound honward ((Failure.namesBound_tooDeep _ _).caused _ _)
    · refine Or.inr (.of_location honward hrest rfl Tree.null.spelling ?_)
      exact ⟨before, .null, rfl, trivial, honward.frame.within hadmits⟩

theorem fails_viably (room : Nat) : FailsViably room := by
  induction room using Nat.strongRecOn with
  | ind room ih => exact viability_step ih

end Descent.Json
