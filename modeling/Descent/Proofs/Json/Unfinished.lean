import Descent.Proofs.CorrectPrefix
import Descent.Proofs.Json.Failing
import Descent.Proofs.Rejection

/-!
Documents that stop in front of a key. Up to there they are a path of arrays and objects that are
open, each with the items or entries in it that are complete. If the innermost object has the key
already, then a document that goes on with it is rejected where the key begins, whatever follows.
The induction is on the path.
-/
namespace Descent.Json

open Script

mutual

/-- What is written of an array or an object, up to the place of a key in it or further inside. -/
inductive Unfinished
  | array (before : Blanks) (items : UnfinishedItems)
  | object (before : Blanks) (entries : UnfinishedEntries)

inductive UnfinishedItems
  | inside (item : Unfinished)
  | more (item : Tree) (after before : Blanks) (others : UnfinishedItems)

/-- The entries of an object, up to the key that comes next or into the item of the last one. -/
inductive UnfinishedEntries
  | here
  | inside (key : Quoted) (behindKey beforeItem : Blanks) (item : Unfinished)
  | more (key : Quoted) (behindKey beforeItem : Blanks) (item : Tree) (after before : Blanks)
      (others : UnfinishedEntries)

end

mutual

def Unfinished.spelling : Unfinished → List Char
  | .array before items => '[' :: (before.text ++ items.spelling)
  | .object before entries => '\x7b' :: (before.text ++ entries.spelling)

def UnfinishedItems.spelling : UnfinishedItems → List Char
  | .inside item => item.spelling
  | .more item after before others =>
    item.spelling ++ (after.text ++ ',' :: (before.text ++ others.spelling))

def UnfinishedEntries.spelling : UnfinishedEntries → List Char
  | .here => []
  | .inside key behindKey beforeItem item =>
    key.text ++ (behindKey.text ++ ':' :: (beforeItem.text ++ item.spelling))
  | .more key behindKey beforeItem item after before others =>
    key.text ++ (behindKey.text ++ ':' :: (beforeItem.text ++ (item.spelling ++
      (after.text ++ ',' :: (before.text ++ others.spelling)))))

end

mutual

/-- The decoded keys that the innermost object has so far. -/
def Unfinished.keys : Unfinished → List String
  | .array _ items => items.keys
  | .object _ entries => entries.keys []

def UnfinishedItems.keys : UnfinishedItems → List String
  | .inside item => item.keys
  | .more _ _ _ others => others.keys

def UnfinishedEntries.keys (sofar : List String) : UnfinishedEntries → List String
  | .here => sofar
  | .inside _ _ _ item => item.keys
  | .more key _ _ _ _ _ others => others.keys (sofar ++ [key.value])

end

mutual

/-- The decoded keys differ in every object that is open, and in what is complete. -/
def Unfinished.Distinct : Unfinished → Prop
  | .array _ items => items.Distinct
  | .object _ entries => entries.Distinct []

def UnfinishedItems.Distinct : UnfinishedItems → Prop
  | .inside item => item.Distinct
  | .more item _ _ others => item.Distinct ∧ others.Distinct

def UnfinishedEntries.Distinct (sofar : List String) : UnfinishedEntries → Prop
  | .here => sofar.Nodup
  | .inside key _ _ item => (sofar ++ [key.value]).Nodup ∧ item.Distinct
  | .more key _ _ item _ _ others => item.Distinct ∧ others.Distinct (sofar ++ [key.value])

end

mutual

/-- How many levels are needed below the rule for values, with those of the key that comes next.
-/
def Unfinished.need : Unfinished → Nat
  | .array _ items => items.need + 2
  | .object _ entries => max 3 (entries.need + 2)

def UnfinishedItems.need : UnfinishedItems → Nat
  | .inside item => item.need
  | .more item _ _ others => max (item.need 0) others.need

def UnfinishedEntries.need : UnfinishedEntries → Nat
  | .here => 0
  | .inside _ _ _ item => item.need
  | .more _ _ _ item _ _ others => max (item.need 0) others.need

end

/-- The failure stands where so much of the text is left, and says that the key came again. -/
def RepeatsAt (q : Quoted) (rest : List Char) (s : Scanner) (f : Failure) : Prop :=
  ∃ front, s.rest = front ++ (q.text ++ rest) ∧ f = repeated (s.location.advance front) q.value

theorem RepeatsAt.behind {q : Quoted} {rest : List Char} {s t : Scanner} {f : Failure}
    (h : RepeatsAt q rest t f) (honward : s.Onward t) : RepeatsAt q rest s f := by
  obtain ⟨front, hrest, hf⟩ := h
  obtain ⟨passed, hpassed, hlocation⟩ := honward.passed
  refine ⟨passed ++ front, ?_, ?_⟩
  · rw [hpassed, hrest, List.append_assoc]
  · rw [hf, hlocation, Position.advance_append]

/-- The rule for values fails at a key that the innermost object has already. -/
def Unfinished.Stops (o : Unfinished) : Prop :=
  ∀ ⦃room : Nat⦄ ⦃s : Scanner⦄ ⦃before : Blanks⦄ ⦃q : Quoted⦄ ⦃rest : List Char⦄, s.Ample room →
    s.depth + o.need ≤ s.limits.maxDepth →
    s.rest = before.text ++ (o.spelling ++ (q.text ++ rest)) → q.value ∈ o.keys →
    (valueBody.run grammar.kindOf (grammar.run room) s).FailsWith (RepeatsAt q rest s)

def UnfinishedItems.Stops (items : UnfinishedItems) : Prop :=
  ∀ (sofar : List Value) ⦃rounds room : Nat⦄ ⦃s : Scanner⦄ ⦃before : Blanks⦄ ⦃q : Quoted⦄
    ⦃rest : List Char⦄, s.Ample room → s.depth + (items.need + 1) ≤ s.limits.maxDepth →
    s.rest = before.text ++ (items.spelling ++ (q.text ++ rest)) → s.rest.length < rounds →
    q.value ∈ items.keys →
    ((itemsFrom rounds sofar).run grammar.kindOf (grammar.run room) s).FailsWith
      (RepeatsAt q rest s)

/-- Rounds enough fail there, behind the members read so far. -/
def UnfinishedEntries.Stops (entries : UnfinishedEntries) : Prop :=
  ∀ (sofar : List (String × Value)) ⦃rounds room : Nat⦄ ⦃s : Scanner⦄ ⦃before : Blanks⦄
    ⦃q : Quoted⦄ ⦃rest : List Char⦄, s.Ample room →
    s.depth + max 2 (entries.need + 1) ≤ s.limits.maxDepth →
    s.rest = before.text ++ (entries.spelling ++ (q.text ++ rest)) → s.rest.length < rounds →
    entries.Distinct (sofar.map Prod.fst) → q.value ∈ entries.keys (sofar.map Prod.fst) →
    ((membersFrom rounds ⟨sofar⟩).run grammar.kindOf (grammar.run room) s).FailsWith
      (RepeatsAt q rest s)

variable {room : Nat} {s : Scanner} {rest : List Char}

theorem Unfinished.exists_cons (o : Unfinished) :
    ∃ c cs, o.spelling = c :: cs ∧ isOpening c = true := by
  cases o with
  | array before items => exact ⟨'[', _, rfl, rfl⟩
  | object before entries => exact ⟨'\x7b', _, rfl, rfl⟩

theorem Unfinished.Stops.item {o : Unfinished} (ho : o.Stops) {α : Type}
    {next : Value → Script Yield α} {before : Blanks} {q : Quoted} (hs : s.Ample room)
    (hdepth : s.depth + (o.need + 1) ≤ s.limits.maxDepth)
    (hrest : s.rest = before.text ++ (o.spelling ++ (q.text ++ rest)))
    (hthere : q.value ∈ o.keys) :
    ((parse (.rule .value) >>= next).run grammar.kindOf (grammar.run room) s).FailsWith
      (RepeatsAt q rest s) := by
  refine Grammar.parse_failsWith (g := grammar) (c := .rule .value) hs (by omega) ?_ next
  intro levels hentered hdown
  have hlimits : (s.entered []).limits = s.limits := rfl
  exact ho hentered (by rw [hdown, hlimits]; omega) hrest hthere

section Arrays

theorem UnfinishedItems.exists_cons (items : UnfinishedItems) :
    ∃ c cs, items.spelling = c :: cs ∧ isOpening c = true := by
  cases items with
  | inside item => exact item.exists_cons
  | more item after before others =>
    obtain ⟨c, cs, hspelling, hopening⟩ := item.exists_cons
    refine ⟨c, cs ++ (after.text ++ ',' :: (before.text ++ others.spelling)), ?_, hopening⟩
    rw [spelling, hspelling]
    rfl

theorem UnfinishedItems.stops_inside {item : Unfinished} (hitem : item.Stops) :
    (inside item).Stops := by
  intro sofar rounds room s before q rest hs hdepth hrest hrounds hthere
  obtain ⟨n, rfl⟩ : ∃ n, rounds = n + 1 := ⟨rounds - 1, by omega⟩
  exact hitem.item hs hdepth hrest hthere

theorem UnfinishedItems.stops_more {item : Tree} (hyields : item.Yielded) (after before : Blanks)
    {others : UnfinishedItems} (hothers : others.Stops) :
    (more item after before others).Stops := by
  intro sofar rounds room s front q rest hs hdepth hrest hrounds hthere
  obtain ⟨n, rfl⟩ : ∃ n, rounds = n + 1 := ⟨rounds - 1, by omega⟩
  have hneed : (more item after before others).need = max (item.need 0) others.need := rfl
  have hrest' : s.rest = front.text ++ (item.spelling ++ (after.text ++
      ',' :: (before.text ++ (others.spelling ++ (q.text ++ rest))))) := by
    rw [hrest, spelling]
    simp
  obtain ⟨w, honward, hw, hstep⟩ :=
    itemsFrom_round hyields (hs.allows (by omega)) n sofar front after hrest'
  have hwDepth := honward.frame.depth
  have hwLimits := honward.frame.limits
  have hshort : w.rest.length < n := by
    have hlength := congrArg List.length hrest'
    simp only [← hw, List.length_append, List.length_cons] at hlength
    omega
  have hfails := hothers (item.value :: sofar) (honward.frame.ample hs)
    (by rw [hwDepth, hwLimits]; omega) hw hshort hthere
  rw [hstep]
  exact hfails.imp fun f hf => hf.behind honward

theorem Unfinished.stops_array (inner : Blanks) {items : UnfinishedItems} (hitems : items.Stops) :
    (array inner items).Stops := by
  intro room s before q rest hs hdepth hrest hthere
  have hneed : (array inner items).need = items.need + 2 := rfl
  refine valueBody_failsWith_kind hs (by omega)
    (fun hallows => valueBody_array hrest (avoids_mark (by decide) _) hallows rfl)
    (fun levels t ht hdown hlimits htext => ?_)
    fun u f honward hf => RepeatsAt.behind (t := u) hf honward
  obtain ⟨c, cs, hspelling, hopening⟩ := items.exists_cons
  have htext' : t.rest = "[".toList ++ (inner.text ++ c :: (cs ++ (q.text ++ rest))) := by
    rw [htext, spelling, hspelling]
    simp
  have htAllows : t.Allows levels (0 + 1) := ht.allows (by rw [hdown, hlimits]; omega)
  obtain ⟨v, hv, hvRest, hrun⟩ := arrayBody_opened inner htAllows hopening htext'
  have hvDepth := hv.frame.depth
  have hvLimits := hv.frame.limits
  have hvItems : v.rest = Blanks.none.text ++ (items.spelling ++ (q.text ++ rest)) := by
    rw [hvRest, hspelling]
    rfl
  have hfails := hitems [] (hv.frame.ample ht)
    (by rw [hvDepth, hvLimits, hdown, hlimits]; omega) hvItems (Nat.lt_succ_self _) hthere
  change (arrayBody.run grammar.kindOf (grammar.run levels) t).FailsWith _
  rw [hrun]
  exact (bind_failsWith hfails _).imp fun f hf => hf.behind hv

end Arrays

section Objects

/-- Where the keys of entries differ, so do those in front of them. -/
theorem UnfinishedEntries.Distinct.nodup {entries : UnfinishedEntries} {sofar : List String}
    (h : entries.Distinct sofar) : sofar.Nodup := by
  cases entries with
  | here => exact h
  | inside key behindKey beforeItem item => exact (List.nodup_append.mp h.1).1
  | more key behindKey beforeItem item after before others =>
    exact (List.nodup_append.mp (nodup h.2)).1

theorem not_mem_of_nodup_snoc {keys : List String} {key : String} (h : (keys ++ [key]).Nodup) :
    key ∉ keys :=
  fun hmem => (List.nodup_append.mp h).2.2 key hmem key (List.mem_singleton_self key) rfl

theorem UnfinishedEntries.exists_cons (entries : UnfinishedEntries) (q : Quoted)
    (rest : List Char) : ∃ cs, entries.spelling ++ (q.text ++ rest) = '"' :: cs := by
  cases entries with
  | here => exact ⟨_, rfl⟩
  | inside => exact ⟨_, rfl⟩
  | more => exact ⟨_, rfl⟩

/-- A key that comes again is reported where it begins. -/
theorem membersFrom_repeats (hs : s.Allows room 2) (n : Nat) {members : Object} (q : Quoted)
    (before : Blanks) (hrest : s.rest = before.text ++ (q.text ++ rest))
    (hthere : q.value ∈ members.keys) :
    ((membersFrom (n + 1) members).run grammar.kindOf (grammar.run room) s).FailsWith
      (RepeatsAt q rest s) := by
  obtain ⟨t, u, ht, htRest, -, -, hfresh, hstep⟩ :=
    membersFrom_reads_key hs n members q before hrest
  rw [if_pos ((members.contains_iff _).mpr hthere)] at hstep
  have hrun : (duplicateKey t.location q.value : Script Yield Object).run grammar.kindOf
      (grammar.run room) u = .finished (.error (repeated t.location q.value)) u := by
    rw [repeated, ← hfresh]
    rfl
  refine ⟨_, u, hstep.trans hrun, before.text, hrest, ?_⟩
  rw [ht.place_eq (by rw [hrest, htRest])]

theorem UnfinishedEntries.stops_here : here.Stops := by
  intro sofar rounds room s before q rest hs hdepth hrest hrounds hdistinct hthere
  obtain ⟨n, rfl⟩ : ∃ n, rounds = n + 1 := ⟨rounds - 1, by omega⟩
  exact membersFrom_repeats (hs.allows hdepth) n q before hrest hthere

theorem UnfinishedEntries.stops_inside (key : Quoted) (behindKey beforeItem : Blanks)
    {item : Unfinished} (hitem : item.Stops) : (inside key behindKey beforeItem item).Stops := by
  intro sofar rounds room s before q rest hs hdepth hrest hrounds hdistinct hthere
  obtain ⟨n, rfl⟩ : ∃ n, rounds = n + 1 := ⟨rounds - 1, by omega⟩
  have hneed : (inside key behindKey beforeItem item).need = item.need := rfl
  have hnew : key.value ∉ (⟨sofar⟩ : Object).keys := not_mem_of_nodup_snoc hdistinct.1
  have hrest' : s.rest = before.text ++ (key.text ++ (behindKey.text ++ (":".toList ++
      (beforeItem.text ++ (item.spelling ++ (q.text ++ rest)))))) := by
    rw [hrest, spelling]
    simp
  obtain ⟨start, t, honward, ht, hstep⟩ :=
    membersFrom_key (hs.allows (by omega)) n key before behindKey hrest' hnew
  have htDepth := honward.frame.depth
  have htLimits := honward.frame.limits
  rw [hstep]
  exact (hitem.item (honward.frame.ample hs) (by rw [htDepth, htLimits]; omega) ht hthere).imp
    fun f hf => hf.behind honward

theorem UnfinishedEntries.stops_more (key : Quoted) (behindKey beforeItem : Blanks) {item : Tree}
    (hyields : item.Yielded) (after before : Blanks) {others : UnfinishedEntries}
    (hothers : others.Stops) :
    (more key behindKey beforeItem item after before others).Stops := by
  intro sofar rounds room s front q rest hs hdepth hrest hrounds hdistinct hthere
  obtain ⟨n, rfl⟩ : ∃ n, rounds = n + 1 := ⟨rounds - 1, by omega⟩
  have hneed : (more key behindKey beforeItem item after before others).need =
      max (item.need 0) others.need := rfl
  have hkeys : (sofar ++ [(key.value, item.value)]).map Prod.fst =
      sofar.map Prod.fst ++ [key.value] := List.map_append
  have hnew : key.value ∉ (⟨sofar⟩ : Object).keys := not_mem_of_nodup_snoc hdistinct.2.nodup
  have hrest' : s.rest = front.text ++ (key.text ++ (behindKey.text ++ (":".toList ++
      (beforeItem.text ++ (item.spelling ++ (after.text ++
        ',' :: (before.text ++ (others.spelling ++ (q.text ++ rest))))))))) := by
    rw [hrest, spelling]
    simp
  obtain ⟨w, honward, hw, hstep⟩ := membersFrom_round hyields key (hs.allows (by omega)) n hnew
    front behindKey beforeItem after hrest'
  have hwDepth := honward.frame.depth
  have hwLimits := honward.frame.limits
  have hshort : w.rest.length < n := by
    have hlength := congrArg List.length hrest'
    simp only [← hw, List.length_append, List.length_cons] at hlength
    omega
  have hfails := hothers (sofar ++ [(key.value, item.value)]) (honward.frame.ample hs)
    (by rw [hwDepth, hwLimits]; omega) hw hshort (by rw [hkeys]; exact hdistinct.2)
    (by rw [hkeys]; exact hthere)
  rw [hstep]
  exact hfails.imp fun f hf => hf.behind honward

theorem Unfinished.stops_object (inner : Blanks) {entries : UnfinishedEntries}
    (hentries : entries.Stops) (hdistinct : entries.Distinct []) :
    (object inner entries).Stops := by
  intro room s before q rest hs hdepth hrest hthere
  have hneed : (object inner entries).need = max 3 (entries.need + 2) := rfl
  refine valueBody_failsWith_kind hs (by omega)
    (fun hallows => valueBody_object hrest (avoids_mark (by decide) _) hallows rfl)
    (fun levels t ht hdown hlimits htext => ?_)
    fun u f honward hf => RepeatsAt.behind (t := u) hf honward
  obtain ⟨cs, hspelling⟩ := entries.exists_cons q rest
  have htext' : t.rest = "\x7b".toList ++ (inner.text ++ '"' :: cs) := by
    rw [htext, spelling, ← hspelling]
    simp
  have htAllows : t.Allows levels (0 + 1) := ht.allows (by rw [hdown, hlimits]; omega)
  obtain ⟨v, hv, hvRest, hrun⟩ := objectBody_opened inner htAllows htext'
  have hvDepth := hv.frame.depth
  have hvLimits := hv.frame.limits
  have hvEntries : v.rest = Blanks.none.text ++ (entries.spelling ++ (q.text ++ rest)) := by
    rw [hvRest, hspelling]
    rfl
  have hfails := hentries [] (hv.frame.ample ht)
    (by rw [hvDepth, hvLimits, hdown, hlimits]; omega) hvEntries (Nat.lt_succ_self _) hdistinct
    hthere
  change (objectBody.run grammar.kindOf (grammar.run levels) t).FailsWith _
  rw [hrun]
  exact (bind_failsWith hfails _).imp fun f hf => hf.behind hv

end Objects

mutual

/-- By induction on the path to the place of the key. -/
theorem Unfinished.stops (o : Unfinished) (h : o.Distinct) : o.Stops := by
  cases o with
  | array before items => exact Unfinished.stops_array before (items.stops h)
  | object before entries => exact Unfinished.stops_object before (entries.stops [] h) h

theorem UnfinishedItems.stops (items : UnfinishedItems) (h : items.Distinct) : items.Stops := by
  cases items with
  | inside item => exact UnfinishedItems.stops_inside (item.stops h)
  | more item after before others =>
    exact UnfinishedItems.stops_more (item.yielded h.1) after before (others.stops h.2)

theorem UnfinishedEntries.stops (entries : UnfinishedEntries) (sofar : List String)
    (h : entries.Distinct sofar) : entries.Stops := by
  cases entries with
  | here => exact UnfinishedEntries.stops_here
  | inside key behindKey beforeItem item =>
    exact UnfinishedEntries.stops_inside key behindKey beforeItem (item.stops h.2)
  | more key behindKey beforeItem item after before others =>
    exact UnfinishedEntries.stops_more key behindKey beforeItem (item.yielded h.1) after before
      (others.stops _ h.2)

end

end Descent.Json
