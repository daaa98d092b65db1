import Descent.Proofs.Json.Unfinished
import Descent.Proofs.Report

/-!
What the data format reports. A value is tried as one thing after another, and looking for commas
fails at every end of a loop; of all this a failure only tells that the last constant was missed,
or the quote that closes a text. A key that comes again is reported behind a document that is not
finished and has the key in its innermost object. The induction is on the room for callees. Arrays
and objects make a round with the values in them, so that a bound of whole rounds is never reached
where a value is tried, and the quote that closes a text is looked for where one was read before.
-/
namespace Descent.Json

open Script

/-- A value is tried as a constant last. A text that does not go on must end. The numbers are left
out: their digits may lie beyond the bound. -/
def attempts : List Attempt :=
  [⟨"unable to parse value", tried.map .literal, "null"⟩,
    ⟨"invalid character in string literal", [], "\""⟩]

/-- What all other messages begin with, but those of keys that come again. -/
def words : List String := "invalid unicode character U+" :: Reason.words

theorem mem_words_of_reason : ∀ word ∈ Reason.words, word ∈ words :=
  fun _ hword => List.mem_cons_of_mem _ hword

/-- The failure is told, or stands at a key that comes again behind one of some texts, where some
keys are taken. -/
def Tells (fronts : List Char → List String → Prop) (s : Scanner) (f : Failure) : Prop :=
  f.Told attempts words s ∨ ∃ (front : List Char) (keys : List String) (q : Quoted)
    (rest : List Char), fronts front keys ∧ s.rest = front ++ (q.text ++ rest) ∧ q.value ∈ keys ∧
      f = repeated (s.location.advance front) q.value

/-- Blanks and what is not finished of a value, which exceeds the bound by so many levels at
most. -/
def Open (above : Nat) (s : Scanner) (front : List Char) (keys : List String) : Prop :=
  ∃ (before : Blanks) (o : Unfinished), front = before.text ++ o.spelling ∧ keys = o.keys ∧
    o.Distinct ∧ s.depth + o.need ≤ s.limits.maxDepth + above

def OpenItems (s : Scanner) (front : List Char) (keys : List String) : Prop :=
  ∃ (before : Blanks) (items : UnfinishedItems), front = before.text ++ items.spelling ∧
    keys = items.keys ∧ items.Distinct ∧ s.depth + (items.need + 1) ≤ s.limits.maxDepth

/-- Blanks and what is not finished of the entries of an object, behind those read so far. -/
def OpenEntries (sofar : Object) (s : Scanner) (front : List Char) (keys : List String) : Prop :=
  ∃ (before : Blanks) (entries : UnfinishedEntries), front = before.text ++ entries.spelling ∧
    keys = entries.keys sofar.keys ∧ entries.Distinct sofar.keys ∧
    s.depth + max 2 (entries.need + 1) ≤ s.limits.maxDepth

namespace Tells

variable {fronts fronts' : List Char → List String → Prop} {s t : Scanner} {f : Failure}

/-- What is told further on is told from here, if the text passed can stand in front. -/
theorem behind (h : Tells fronts t f) (honward : s.Onward t) {passed : List Char}
    (hrest : s.rest = passed ++ t.rest)
    (hfronts : ∀ front keys, fronts front keys → fronts' (passed ++ front) keys) :
    Tells fronts' s f := by
  rcases h with htold | ⟨front, keys, q, rest, hfront, hq, hthere, hf⟩
  · exact Or.inl (htold.behind honward)
  · refine Or.inr ⟨passed ++ front, keys, q, rest, hfronts front keys hfront, ?_, hthere, ?_⟩
    · rw [hrest, hq, List.append_assoc]
    · rw [hf, honward.place_eq hrest, Position.advance_append]

theorem of_entered {args : List Argument} (h : Tells fronts (s.entered args) f)
    (hfronts : ∀ front keys, fronts front keys → fronts' front keys) : Tells fronts' s f := by
  rcases h with htold | ⟨front, keys, q, rest, hfront, hq, hthere, hf⟩
  · exact Or.inl htold.of_entered
  · exact Or.inr ⟨front, keys, q, rest, hfronts front keys hfront, hq, hthere, hf⟩

theorem imp (h : Tells fronts s f)
    (hfronts : ∀ front keys, fronts front keys → fronts' front keys) : Tells fronts' s f :=
  h.behind (.refl s) (List.nil_append _).symm hfronts

theorem of_reason (location : Position) (reason : Reason) :
    Tells fronts s (.ofReason location reason) :=
  Or.inl (.of_reason mem_words_of_reason location reason)

end Tells

/-- With this much room for callees, the failures of the rule for values are told, where the bound
leaves whole rounds beside its own level. -/
def FailsTelling (room : Nat) : Prop :=
  ∀ ⦃s u : Scanner⦄ ⦃f : Failure⦄, s.Ready room → s.Aligned 2 1 →
    valueBody.run grammar.kindOf (grammar.run room) s = .finished (.error f) u →
    Tells (Open 0 s) s f

variable {room : Nat} {s u : Scanner} {f : Failure}

section Texts

theorem stringBody_told (hs : s.Ready room)
    (h : stringBody.run grammar.kindOf (grammar.run room) s = .finished (.error f) u) :
    f.Told attempts words s := by
  rcases stringBody_error_cases hs h with ⟨reason, -, rfl⟩ |
    ⟨hadmits, pieces, t, reason, honward, -, hmissed, rfl⟩ | ⟨location, code, rfl⟩
  · exact .of_reason mem_words_of_reason _ reason
  · have hmem : ⟨"invalid character in string literal", [], "\""⟩ ∈ attempts := by
      simp [attempts]
    have hbelow : t.depth + 1 ≤ t.limits.maxDepth := by
      rw [honward.frame.depth, honward.frame.limits]
      exact hadmits
    have hnone : ∀ t' ∈ ([] : List Token), ∃ reason, t'.Missed t reason :=
      fun _ h => absurd h List.not_mem_nil
    exact (Failure.Told.of_missed hmem hbelow hnone hmissed).behind honward
  · exact .alone location ⟨_, List.mem_cons_self, _, rfl⟩

theorem call_key_told (hs : s.Ready room) (h : CallFails room .string s f) :
    f.Told attempts words s := by
  obtain ⟨v, hcall⟩ := h
  rcases Grammar.call_error_exact (g := grammar) (c := .rule .string) hs hcall with
    ⟨-, rfl⟩ | ⟨-, levels, w, -, hentered, -, hrun⟩
  · exact .of_reason mem_words_of_reason _ _
  · exact (stringBody_told hentered hrun).of_entered

end Texts

section Loops

variable (ih : ∀ levels, levels < room → FailsTelling levels)

include ih

theorem call_item_tells (hs : s.Ready room) (hround : s.Aligned 2 0)
    (h : CallFails room .value s f) :
    Tells (fun front keys => ∃ (before : Blanks) (o : Unfinished),
      front = before.text ++ o.spelling ∧ keys = o.keys ∧ o.Distinct ∧
      s.depth + (o.need + 1) ≤ s.limits.maxDepth) s f := by
  obtain ⟨v, hcall⟩ := h
  rcases Grammar.call_error_exact (g := grammar) (c := .rule .value) hs hcall with
    ⟨-, rfl⟩ | ⟨-, levels, w, rfl, hentered, hdown, hrun⟩
  · exact .of_reason _ _
  · have hround' : (s.entered []).Aligned 2 1 := hround.around.entered hdown
    refine (ih levels (Nat.lt_succ_self _) hentered hround' hrun).of_entered ?_
    rintro front keys ⟨before, o, hfront, hkeys, hdistinct, hdepth⟩
    refine ⟨before, o, hfront, hkeys, hdistinct, ?_⟩
    rw [hdown] at hdepth
    change s.depth + 1 + o.need ≤ s.limits.maxDepth + 0 at hdepth
    omega

theorem itemsFrom_tells {rounds : Nat} {sofar : List Value} (hs : s.Ready room)
    (hround : s.Aligned 2 0)
    (h : (itemsFrom rounds sofar).run grammar.kindOf (grammar.run room) s =
      .finished (.error f) u) : Tells (OpenItems s) s f := by
  induction rounds generalizing s u sofar with
  | zero => cases h
  | succ rounds ihRounds =>
    cases itemsFrom_error_cases hs h with
    | item hitem =>
      refine (call_item_tells ih hs hround hitem).imp ?_
      rintro front keys ⟨before, o, rfl, rfl, hdistinct, hdepth⟩
      exact ⟨before, .inside o, rfl, rfl, hdistinct, hdepth⟩
    | behind before item after sofar' t v honward hrest hdistinct hdepth hrun =>
      refine (ihRounds (honward.ready hs) (hround.onward honward) hrun).behind honward hrest ?_
      rintro front keys ⟨before', others, rfl, rfl, hdistinct', hdepth'⟩
      refine ⟨before, .more item after before' others, by simp [UnfinishedItems.spelling], rfl,
        ⟨hdistinct, hdistinct'⟩, ?_⟩
      have hbelow := honward.frame.within hdepth'
      change s.depth + (max (item.need 0) others.need + 1) ≤ s.limits.maxDepth
      omega

theorem membersFrom_tells {rounds : Nat} {sofar : Object} (hs : s.Ready room)
    (hround : s.Aligned 2 0) (hsofar : sofar.keys.Nodup)
    (h : (membersFrom rounds sofar).run grammar.kindOf (grammar.run room) s =
      .finished (.error f) u) : Tells (OpenEntries sofar s) s f := by
  induction rounds generalizing s u sofar with
  | zero => cases h
  | succ rounds ihRounds =>
    have hlonger : ∀ {key : String} (value : Value), key ∉ sofar.keys →
        (⟨sofar.entries ++ [(key, value)]⟩ : Object).keys = sofar.keys ++ [key] ∧
        (sofar.keys ++ [key]).Nodup := by
      intro key value hnew
      have hkeys : (⟨sofar.entries ++ [(key, value)]⟩ : Object).keys = sofar.keys ++ [key] :=
        List.map_append
      exact ⟨hkeys, hkeys ▸ Members.nodup_snoc hsofar hnew value⟩
    cases membersFrom_error_cases hs h with
    | key before t honward hrest hkey =>
      exact Or.inl ((call_key_told (honward.ready hs) hkey).behind honward)
    | again before q rest hrest hthere hdepth hf =>
      refine Or.inr ⟨before.text, sofar.keys, q, rest, ?_, hrest, hthere, hf⟩
      exact ⟨before, .here, (List.append_nil _).symm, rfl, hsofar, hdepth⟩
    | colon before q behindKey t reason honward hrest hnew hdepth hmissed hf =>
      rw [hf]
      exact .of_reason _ reason
    | item before q behindKey t honward hrest hnew hdepth hitem =>
      refine (call_item_tells ih (honward.ready hs) (hround.onward honward) hitem).behind honward
        hrest ?_
      rintro front keys ⟨beforeItem, o, rfl, rfl, hdistinct, hdepth'⟩
      refine ⟨before, .inside q behindKey beforeItem o, ?_, rfl,
        ⟨(hlonger Value.null hnew).2, hdistinct⟩, ?_⟩
      · simp [UnfinishedEntries.spelling]
      · have hbelow := honward.frame.within hdepth'
        change s.depth + max 2 (o.need + 1) ≤ s.limits.maxDepth
        omega
    | behind before q behindKey beforeItem item after t v honward hrest hnew hdistinct hdepth
        hrun =>
      obtain ⟨hkeys, hnodup⟩ := hlonger item.value hnew
      rw [← hkeys] at hnodup
      have htold := ihRounds (honward.ready hs) (hround.onward honward) hnodup hrun
      refine htold.behind honward hrest ?_
      rintro front keys ⟨before', entries, rfl, rfl, hdistinct', hdepth'⟩
      rw [hkeys] at hdistinct' ⊢
      refine ⟨before, .more q behindKey beforeItem item after before' entries, ?_, rfl,
        ⟨hdistinct, hdistinct'⟩, ?_⟩
      · simp [UnfinishedEntries.spelling]
      · have hbelow := honward.frame.within hdepth'
        change s.depth + max 2 (max (item.need 0) entries.need + 1) ≤ s.limits.maxDepth
        omega

end Loops

section Bodies

variable (ih : ∀ levels, levels < room → FailsTelling levels)

include ih

theorem arrayBody_tells (hs : s.Ready room) (hround : s.Aligned 2 0)
    (h : arrayBody.run grammar.kindOf (grammar.run room) s = .finished (.error f) u) :
    Tells (Open 1 s) s f := by
  rw [arrayBody_eq] at h
  cases bracketed_error_cases hs h with
  | opening before t reason honward hrest hmissed hf =>
    rw [hf]
    exact .of_reason _ reason
  | inside before inner t v honward hrest hrun =>
    have hround' := hround.onward honward
    refine (itemsFrom_tells ih (honward.ready hs) hround' hrun).behind honward hrest ?_
    rintro front keys ⟨before', items, rfl, rfl, hdistinct, hdepth⟩
    refine ⟨before, .array (inner.append before') items, ?_, rfl, hdistinct, ?_⟩
    · simp [Unfinished.spelling, Blanks.append]
    · have hbelow := honward.frame.within hdepth
      change s.depth + (items.need + 2) ≤ s.limits.maxDepth + 1
      omega
  | closing before inner t value v reason honward hrest hrun honward' hmissed hf =>
    rw [hf]
    exact .of_reason _ reason

theorem objectBody_tells (hs : s.Ready room) (hround : s.Aligned 2 0)
    (h : objectBody.run grammar.kindOf (grammar.run room) s = .finished (.error f) u) :
    Tells (Open 1 s) s f := by
  have hnone : (Members.empty : Object).keys.Nodup := List.nodup_nil
  rw [objectBody_eq] at h
  cases bracketed_error_cases hs h with
  | opening before t reason honward hrest hmissed hf =>
    rw [hf]
    exact .of_reason _ reason
  | inside before inner t v honward hrest hrun =>
    have hround' := hround.onward honward
    refine (membersFrom_tells ih (honward.ready hs) hround' hnone hrun).behind honward hrest ?_
    rintro front keys ⟨before', entries, rfl, rfl, hdistinct, hdepth⟩
    refine ⟨before, .object (inner.append before') entries, ?_, rfl, hdistinct, ?_⟩
    · simp [Unfinished.spelling, Blanks.append]
    · have hbelow := honward.frame.within hdepth
      change s.depth + max 3 (entries.need + 2) ≤ s.limits.maxDepth + 1
      omega
  | closing before inner t value v reason honward hrest hrun honward' hmissed hf =>
    rw [hf]
    exact .of_reason _ reason

end Bodies

theorem call_kinds_tells (ih : ∀ levels, levels < room → FailsTelling levels) (hs : s.Ready room)
    (hround : s.Aligned 2 1) {r : Rule} (hkind : r ∈ [Rule.string, .object, .array])
    (h : CallFails room r s f) :
    Tells (Open 0 s) s f := by
  obtain ⟨v, hcall⟩ := h
  rcases Grammar.call_error_exact (g := grammar) (c := .rule r) hs hcall with
    ⟨-, rfl⟩ | ⟨-, levels, w, rfl, hentered, hdown, hrun⟩
  · exact .of_reason _ _
  · have hlower : ∀ lower, lower < levels → FailsTelling lower :=
      fun lower hlt => ih lower (Nat.lt_succ_of_lt hlt)
    have hround' := hround.entered hdown
    have htells : Tells (Open 1 (s.entered [])) (s.entered []) f := by
      simp only [List.mem_cons, List.not_mem_nil, or_false] at hkind
      rcases hkind with rfl | rfl | rfl
      · exact Or.inl (stringBody_told hentered hrun)
      · exact objectBody_tells hlower hentered hround' hrun
      · exact arrayBody_tells hlower hentered hround' hrun
    refine htells.of_entered ?_
    rintro front keys ⟨before, o, hfront, hkeys, hdistinct, hdepth⟩
    refine ⟨before, o, hfront, hkeys, hdistinct, ?_⟩
    rw [hdown] at hdepth
    change s.depth + 1 + o.need ≤ s.limits.maxDepth + 1 at hdepth
    omega

theorem telling_step (ih : ∀ levels, levels < room → FailsTelling levels) :
    FailsTelling room := by
  intro s u f hs hround h
  cases valueBody_error_cases hs h with
  | kind before t honward hrest r hkind hcall =>
    have hround' := hround.onward honward
    refine (call_kinds_tells ih (honward.ready hs) hround' hkind hcall).behind honward hrest ?_
    rintro front keys ⟨inner, o, rfl, rfl, hdistinct, hdepth⟩
    refine ⟨before.append inner, o, ?_, rfl, hdistinct, honward.frame.within hdepth⟩
    simp [Blanks.append]
  | unknown before t reason honward hrest htried hmissed hf =>
    rw [hf]
    have hadmits :=
      (hround.onward honward).admits (honward.ready hs).within (by decide) (by decide)
    refine Or.inl ((Failure.Told.of_missed List.mem_cons_self hadmits (fun mark hmark => ?_)
      hmissed).behind honward)
    obtain ⟨word, hword, rfl⟩ := List.mem_map.mp hmark
    exact htried word hword

theorem fails_telling (room : Nat) : FailsTelling room := by
  induction room using Nat.strongRecOn with
  | ind room ih => exact telling_step ih

end Descent.Json
