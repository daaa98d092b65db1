import Descent.Proofs.Munch

/-!
Runs of committed nodes. A search that comes to a committed node with fresh choices goes on behind
what the node munches, provided that what follows succeeds there (`settles_of_committed`). The
induction is on the node; it carries along which choices a run may have taken, since a choice that
was taken before would be passed by. A pattern that is a committed node behind the anchor thereby
matches exactly what the node munches (`Munches.find?_eq`).
-/
namespace Descent

namespace Regex

open Text (CharSet)

/-- A place of the same text, not before this one, with so much text left. -/
structure Spot.At (s : Spot) (back : List Char) (t : Spot) : Prop where
  rest : t.rest = back
  total : t.index + back.length = s.index + s.rest.length
  index_le : s.index ≤ t.index

/-- The choices of the second set are those of the first and some of a kind. -/
def Taken.Within (p : Mark × Nat → Prop) (taken taken' : Taken) : Prop :=
  ∀ x, taken'.contains x = true → taken.contains x = true ∨ p x

theorem Spot.At.refl (s : Spot) : s.At s.rest s := ⟨rfl, rfl, Nat.le_refl _⟩

theorem Spot.At.trans {s t u : Spot} {mid rest : List Char} (h : s.At mid t) (h' : t.At rest u) :
    s.At rest u := by
  have htotal := h.total
  have htotal' := h'.total
  rw [h.rest] at htotal'
  exact ⟨h'.rest, by omega, Nat.le_trans h.index_le h'.index_le⟩

theorem Spot.At.length_le {s t : Spot} {rest : List Char} (h : s.At rest t) :
    t.rest.length ≤ s.rest.length := by
  have htotal := h.total
  have hindex := h.index_le
  rw [h.rest]
  omega

theorem Spot.read?_eq_some {s : Spot} {set : CharSet} {c : Char} {cs : List Char}
    (hrest : s.rest = c :: cs) (hc : set.contains c = true) :
    ∃ t, s.read? set = some t ∧ s.At cs t := by
  refine ⟨{ s with before := some c, rest := cs, index := s.index + 1 }, ?_, rfl, ?_,
    Nat.le_succ s.index⟩
  · simp only [read?, hrest, hc, if_true]
  · simp only [hrest, List.length_cons]
    omega

namespace Taken

theorem Within.refl (p : Mark × Nat → Prop) (taken : Taken) : Within p taken taken :=
  fun _ h => Or.inl h

theorem Within.mono {p q : Mark × Nat → Prop} {taken taken' : Taken} (h : Within p taken taken')
    (hpq : ∀ x, p x → q x) : Within q taken taken' :=
  fun x hx => (h x hx).imp_right (hpq x)

theorem Within.trans {p : Mark × Nat → Prop} {taken taken' taken'' : Taken}
    (h : Within p taken taken') (h' : Within p taken' taken'') : Within p taken taken'' := by
  intro x hx
  rcases h' x hx with hx' | hp
  · exact h x hx'
  · exact Or.inr hp

theorem within_insert {p : Mark × Nat → Prop} (taken : Taken) {x : Mark × Nat} (hx : p x) :
    Within p taken (taken.insert x) := by
  intro y hy
  rw [Std.HashSet.contains_insert, Bool.or_eq_true] at hy
  rcases hy with heq | hy
  · rw [← eq_of_beq heq]
    exact Or.inr hx
  · exact Or.inl hy

end Taken

namespace Node

open Taken (Within)

/-- A choice that the node may make if it is met at a place. -/
def Chosen (n : Node) (place : Nat) (x : Mark × Nat) : Prop :=
  x.1 ∈ n.marks ∧ (n.choosesFirst = true → x.2 = place)

/-- None of the choices that the node may make from a place on was taken before. -/
def Fresh (n : Node) (place : Nat) (taken : Taken) : Prop :=
  ∀ x, x.1 ∈ n.marks → place ≤ x.2 → taken.contains x = false

theorem Fresh.mono {n m : Node} {place place' : Nat} {taken : Taken} (h : n.Fresh place taken)
    (hmarks : m.marks ⊆ n.marks) (hplace : place ≤ place') : m.Fresh place' taken :=
  fun x hx hle => h x (hmarks hx) (Nat.le_trans hplace hle)

theorem Fresh.within {n : Node} {place : Nat} {taken taken' : Taken} {p : Mark × Nat → Prop}
    (h : n.Fresh place taken) (hwithin : Within p taken taken')
    (hother : ∀ x, x.1 ∈ n.marks → place ≤ x.2 → ¬ p x) : n.Fresh place taken' := by
  intro x hx hle
  cases htaken : taken'.contains x with
  | false => rfl
  | true =>
    rcases hwithin x htaken with hold | hp
    · rw [h x hx hle] at hold
      cases hold
    · exact absurd hp (hother x hx hle)

theorem Fresh.insert {n : Node} {mark : Mark} {place : Nat} {taken : Taken}
    (h : n.Fresh place taken) (hmark : mark ∉ n.marks) :
    n.Fresh place (taken.insert (mark, place)) := by
  refine h.within (Taken.within_insert (p := fun x => x.1 = mark) taken rfl) ?_
  intro x hx _ heq
  exact hmark (heq ▸ hx)

/-- A continuation that succeeds at a place, whatever was chosen on the way to it. -/
def Succeeds (k : Continuation) (s : Spot) (taken : Taken) (p : Mark × Nat → Prop)
    (rest : List Char) : Prop :=
  ∀ t taken', s.At rest t → Within p taken taken' → ∃ u, k t taken' = .ok u

/-- The run goes on with the continuation there. -/
def GoesOn (run : Attempt) (k : Continuation) (s : Spot) (taken : Taken) (p : Mark × Nat → Prop)
    (rest : List Char) : Prop :=
  ∃ t taken', s.At rest t ∧ Within p taken taken' ∧ run = k t taken'

def Fails (run : Attempt) (taken : Taken) (p : Mark × Nat → Prop) : Prop :=
  ∃ taken', run = .error taken' ∧ Within p taken taken'

/-- Runs of the node are settled by what it munches. -/
def Settles (rounds : Nat) (n : Node) : Prop :=
  ∀ (s : Spot) (taken : Taken) (k : Continuation), s.rest.length < rounds →
    n.Fresh s.index taken →
    (n.munch s.rest = none → Fails (n.run rounds k s taken) taken (n.Chosen s.index)) ∧
    ∀ rest, n.munch s.rest = some rest → Succeeds k s taken (n.Chosen s.index) rest →
      GoesOn (n.run rounds k s taken) k s taken (n.Chosen s.index) rest

theorem GoesOn.isOk {run : Attempt} {k : Continuation} {s : Spot} {taken : Taken}
    {p : Mark × Nat → Prop} {rest : List Char} (h : GoesOn run k s taken p rest)
    (hk : Succeeds k s taken p rest) : ∃ u, run = .ok u := by
  obtain ⟨t, taken', hat, hwithin, heq⟩ := h
  rw [heq]
  exact hk t taken' hat hwithin

/-- Behind a first part, the second goes on for the whole. -/
theorem GoesOn.trans {run run' : Attempt} {k : Continuation} {s t : Spot} {taken taken' : Taken}
    {p q : Mark × Nat → Prop} {mid rest : List Char} (hat : s.At mid t)
    (hwithin : Within p taken taken') (heq : run = run')
    (h : GoesOn run' k t taken' q rest) (hqp : ∀ x, q x → p x) :
    GoesOn run k s taken p rest := by
  obtain ⟨u, taken'', hat', hwithin', heq'⟩ := h
  exact ⟨u, taken'', hat.trans hat', hwithin.trans (hwithin'.mono hqp), heq.trans heq'⟩

theorem run_of_plain {n : Node} (h : n.plain = true) (rounds : Nat) (s : Spot) :
    (n.munch s.rest = none → ∀ k taken, n.run rounds k s taken = .error taken) ∧
    ∀ rest, n.munch s.rest = some rest →
      ∃ t, s.At rest t ∧ ∀ k taken, n.run rounds k s taken = k t taken := by
  induction n generalizing s with
  | empty =>
    constructor
    · intro hnone
      cases hnone
    · intro rest hsome
      cases hsome
      exact ⟨s, .refl s, fun _ _ => rfl⟩
  | oneOf set =>
    cases hrest : s.rest with
    | nil =>
      refine ⟨fun _ k taken => ?_, fun rest hsome => by cases hsome⟩
      simp only [run, Spot.read?, hrest]
    | cons c cs =>
      by_cases hc : set.contains c = true
      · obtain ⟨t, hread, hat⟩ := Spot.read?_eq_some hrest hc
        simp only [munch, hc, if_true, reduceCtorEq, false_implies, Option.some.injEq, true_and]
        rintro rest rfl
        exact ⟨t, hat, fun k taken => by simp only [run, hread]⟩
      · simp only [munch, hc, if_false, reduceCtorEq, false_implies, implies_true, and_true,
          true_implies, Bool.false_eq_true]
        intro k taken
        simp only [run, Spot.read?, hrest, hc, if_false, Bool.false_eq_true]
  | seq first second ihFirst ihSecond =>
    simp only [plain, Bool.and_eq_true] at h
    cases hmid : first.munch s.rest with
    | none =>
      refine ⟨fun _ k taken => (ihFirst h.1 s).1 hmid _ taken, fun rest hsome => ?_⟩
      rw [munch, hmid] at hsome
      cases hsome
    | some mid =>
      obtain ⟨t, hat, hrun⟩ := (ihFirst h.1 s).2 mid hmid
      obtain ⟨hnone, hsome⟩ := ihSecond h.2 t
      rw [hat.rest] at hnone hsome
      simp only [munch, hmid, Option.bind_some]
      refine ⟨fun hfail k taken => ?_, fun rest hrest => ?_⟩
      · rw [run, hrun, hnone hfail]
      · obtain ⟨u, hat', hrun'⟩ := hsome rest hrest
        exact ⟨u, hat.trans hat', fun k taken => by rw [run, hrun, hrun']⟩
  | _ => cases h

theorem run_of_refuses {n : Node} {set : CharSet} (h : n.refuses set = true) (rounds : Nat)
    {s : Spot} {c : Char} {cs : List Char} (hrest : s.rest = c :: cs)
    (hc : set.contains c = true) (k : Continuation) (taken : Taken) :
    Fails (n.run rounds k s taken) taken (fun x => x.1 ∈ n.marks) := by
  induction n generalizing k taken with
  | oneOf set' =>
    have hnot : set'.contains c = false := not_contains_of_refuses h hc
    refine ⟨taken, ?_, .refl _ taken⟩
    simp only [run, Spot.read?, hrest, hnot, if_false, Bool.false_eq_true]
  | seq first second ihFirst _ =>
    obtain ⟨taken', hrun, hwithin⟩ := ihFirst h (second.run rounds k) taken
    exact ⟨taken', hrun, hwithin.mono fun x hx => List.mem_append_left _ hx⟩
  | plus mark greedy body ih =>
    obtain ⟨taken', hrun, hwithin⟩ :=
      ih h (loop mark greedy (body.run rounds) k rounds) taken
    exact ⟨taken', hrun, hwithin.mono fun x hx => List.mem_cons_of_mem _ hx⟩
  | choice mark first second ihFirst ihSecond =>
    simp only [refuses, Bool.and_eq_true] at h
    by_cases htaken : taken.contains (mark, s.index) = true
    · exact ⟨taken, by simp only [run, choose, htaken, if_true], .refl _ taken⟩
    · obtain ⟨taken₁, hrun₁, hwithin₁⟩ :=
        ihFirst h.1 k (taken.insert (mark, s.index))
      obtain ⟨taken₂, hrun₂, hwithin₂⟩ := ihSecond h.2 k taken₁
      refine ⟨taken₂, ?_, ?_⟩
      · simp only [run, choose, htaken, if_false, hrun₁, hrun₂, Bool.false_eq_true]
      · have hmark : Within (fun x => x.1 ∈ (choice mark first second).marks) taken
            (taken.insert (mark, s.index)) :=
          Taken.within_insert taken (List.mem_cons_self)
        refine hmark.trans (Within.trans (hwithin₁.mono ?_) (hwithin₂.mono ?_))
        · exact fun x hx => List.mem_cons_of_mem _ (List.mem_append_left _ hx)
        · exact fun x hx => List.mem_cons_of_mem _ (List.mem_append_right _ hx)
  | _ => cases h

theorem settles_of_plain {n : Node} (h : n.plain = true) (rounds : Nat) : n.Settles rounds := by
  intro s taken k _ _
  obtain ⟨hnone, hsome⟩ := run_of_plain h rounds s
  refine ⟨fun hfail => ⟨taken, hnone hfail k taken, .refl _ taken⟩, fun rest hrest _ => ?_⟩
  obtain ⟨t, hat, hrun⟩ := hsome rest hrest
  exact ⟨t, taken, hat, .refl _ taken, hrun k taken⟩

/-- The second part of a sequence is fresh behind the first, which has other choices. -/
theorem fresh_second {first second : Node} {s t : Spot} {taken taken' : Taken} {mid : List Char}
    {p : Mark × Nat → Prop} (hfresh : (seq first second).Fresh s.index taken)
    (hmarks : (seq first second).marks.Nodup) (hat : s.At mid t)
    (hwithin : Within p taken taken') (hp : ∀ x, p x → x.1 ∈ first.marks) :
    second.Fresh t.index taken' := by
  have hsecond : second.Fresh t.index taken :=
    hfresh.mono (List.subset_append_right _ _) hat.index_le
  refine hsecond.within hwithin fun x hx _ hpx => ?_
  exact (List.nodup_append.mp hmarks).2.2 _ (hp x hpx) _ hx rfl

theorem chosen_first {first second : Node} {place : Nat} {x : Mark × Nat}
    (h : first.Chosen place x) : (seq first second).Chosen place x := by
  refine ⟨List.mem_append_left _ h.1, fun hfront => h.2 ?_⟩
  simp only [choosesFirst, Bool.and_eq_true] at hfront
  exact hfront.1

theorem chosen_second {first second : Node} {place : Nat} {x : Mark × Nat}
    (h : x.1 ∈ second.marks) : (seq first second).Chosen place x := by
  refine ⟨List.mem_append_right _ h, fun hfront => ?_⟩
  simp only [choosesFirst, Bool.and_eq_true] at hfront
  rw [marks_of_plain hfront.2] at h
  cases h

/-- A sequence whose second part cannot fail, or whose first part has no choices. -/
theorem settles_seq {first second : Node} {rounds : Nat}
    (hmarks : (seq first second).marks.Nodup) (hfirst : first.Settles rounds)
    (hsecond : second.Settles rounds) (h : first.plain = true ∨ second.total = true) :
    (seq first second).Settles rounds := by
  intro s taken k hrounds hfresh
  have hfreshFirst : first.Fresh s.index taken :=
    hfresh.mono (List.subset_append_left _ _) (Nat.le_refl _)
  obtain ⟨hnone, hsome⟩ := hfirst s taken (second.run rounds k) hrounds hfreshFirst
  cases hmid : first.munch s.rest with
  | none =>
    refine ⟨fun _ => ?_, fun rest hrest => ?_⟩
    · obtain ⟨taken', hrun, hwithin⟩ := hnone hmid
      exact ⟨taken', hrun, hwithin.mono fun x hx => chosen_first hx⟩
    · rw [munch, hmid] at hrest
      cases hrest
  | some mid =>
    simp only [munch, hmid, Option.bind_some]
    -- what the second part does at any place that the first part may end at
    have hthere : ∀ t taken', s.At mid t → Within (first.Chosen s.index) taken taken' →
        (second.munch mid = none → Fails (second.run rounds k t taken') taken'
          (second.Chosen t.index)) ∧
        ∀ rest, second.munch mid = some rest →
          Succeeds k s taken ((seq first second).Chosen s.index) rest →
          Succeeds k t taken' (second.Chosen t.index) rest ∧
          GoesOn (second.run rounds k t taken') k t taken' (second.Chosen t.index) rest := by
      intro t taken' hat hwithin
      have hfresh' : second.Fresh t.index taken' :=
        fresh_second hfresh hmarks hat hwithin fun x hx => hx.1
      have hlength := hat.length_le
      obtain ⟨hnone', hsome'⟩ := hsecond t taken' k (by omega) hfresh'
      rw [hat.rest] at hnone' hsome'
      refine ⟨hnone', fun rest hrest hk => ?_⟩
      have hk' : Succeeds k t taken' (second.Chosen t.index) rest := by
        intro u taken'' hat' hwithin'
        refine hk u taken'' (hat.trans hat') ?_
        exact (hwithin.mono fun x hx => chosen_first hx).trans
          (hwithin'.mono fun x hx => chosen_second hx.1)
      exact ⟨hk', hsome' rest hrest hk'⟩
    rcases h with hplain | htotal
    · obtain ⟨t, hat, hrun⟩ := (run_of_plain hplain rounds s).2 mid hmid
      obtain ⟨hfail, hgo⟩ := hthere t taken hat (.refl _ taken)
      refine ⟨fun hrest => ?_, fun rest hrest hk => ?_⟩
      · obtain ⟨taken', hrun', hwithin⟩ := hfail hrest
        exact ⟨taken', (hrun _ taken).trans hrun', hwithin.mono fun x hx => chosen_second hx.1⟩
      · obtain ⟨-, hgoes⟩ := hgo rest hrest hk
        exact hgoes.trans hat (.refl _ taken) (hrun _ taken) fun x hx => chosen_second hx.1
    · obtain ⟨rest', hrest'⟩ := munch_isSome htotal mid
      refine ⟨fun hrest => ?_, fun rest hrest hk => ?_⟩
      · rw [hrest'] at hrest
        cases hrest
      · obtain ⟨t, taken', hat, hwithin, hrun⟩ := hsome mid hmid (by
          intro t taken' hat hwithin
          obtain ⟨hk', hgoes⟩ := (hthere t taken' hat hwithin).2 rest hrest hk
          exact hgoes.isOk hk')
        obtain ⟨-, hgoes⟩ := (hthere t taken' hat hwithin).2 rest hrest hk
        exact hgoes.trans hat (hwithin.mono fun x hx => chosen_first hx) hrun
          fun x hx => chosen_second hx.1

/-- A choice is taken once at a place. -/
theorem run_choice {mark : Mark} {first second : Node} {rounds : Nat} {s : Spot} {taken : Taken}
    {k : Continuation} (h : taken.contains (mark, s.index) = false) :
    (choice mark first second).run rounds k s taken =
      match first.run rounds k s (taken.insert (mark, s.index)) with
      | .ok t => .ok t
      | .error taken' => second.run rounds k s taken' := by
  simp only [run, choose]
  split
  · next hthere =>
    rw [h] at hthere
    cases hthere
  · rfl

theorem chosen_mark {mark : Mark} {first second : Node} {place : Nat} :
    (choice mark first second).Chosen place (mark, place) :=
  ⟨List.mem_cons_self, fun _ => rfl⟩

theorem chosen_branch {mark : Mark} {first second : Node} {place : Nat} {x : Mark × Nat}
    (h : first.Chosen place x ∨ second.Chosen place x) :
    (choice mark first second).Chosen place x := by
  simp only [Chosen, marks, choosesFirst, List.mem_cons, List.mem_append, Bool.and_eq_true]
  rcases h with hfirst | hsecond
  · exact ⟨Or.inr (Or.inl hfirst.1), fun hfront => hfirst.2 hfront.1⟩
  · exact ⟨Or.inr (Or.inr hsecond.1), fun hfront => hsecond.2 hfront.2⟩

theorem settles_choice {mark : Mark} {first second : Node} {rounds : Nat}
    (hmarks : (choice mark first second).marks.Nodup) (hfirst : first.Settles rounds)
    (hsecond : second.Settles rounds) : (choice mark first second).Settles rounds := by
  intro s taken k hrounds hfresh
  obtain ⟨hmark, hbranches⟩ := List.nodup_cons.mp hmarks
  have hmarked : Within ((choice mark first second).Chosen s.index) taken
      (taken.insert (mark, s.index)) := Taken.within_insert taken chosen_mark
  have hfreshFirst : first.Fresh s.index (taken.insert (mark, s.index)) := by
    have hold : first.Fresh s.index taken :=
      hfresh.mono (fun x hx => List.mem_cons_of_mem _ (List.mem_append_left _ hx))
        (Nat.le_refl _)
    exact hold.insert fun hin => hmark (List.mem_append_left _ hin)
  obtain ⟨hnone, hsome⟩ := hfirst s (taken.insert (mark, s.index)) k hrounds hfreshFirst
  rw [run_choice (hfresh (mark, s.index) List.mem_cons_self (Nat.le_refl _))]
  cases hread : first.munch s.rest with
  | some mid =>
    simp only [munch, hread, Option.some_or, reduceCtorEq, false_implies, Option.some.injEq,
      true_and]
    rintro rest rfl hk
    have hk' : Succeeds k s (taken.insert (mark, s.index)) (first.Chosen s.index) mid :=
      fun t taken' hat hwithin =>
        hk t taken' hat (hmarked.trans (hwithin.mono fun x hx => chosen_branch (Or.inl hx)))
    have hgoes := hsome mid hread hk'
    obtain ⟨u, hok⟩ := hgoes.isOk hk'
    obtain ⟨t, taken', hat, hwithin, hrun⟩ := hgoes
    rw [hok]
    refine ⟨t, taken', hat, ?_, hok.symm.trans hrun⟩
    exact hmarked.trans (hwithin.mono fun x hx => chosen_branch (Or.inl hx))
  | none =>
    obtain ⟨taken₁, hrun₁, hwithin₁⟩ := hnone hread
    have hfreshSecond : second.Fresh s.index taken₁ := by
      have hold : second.Fresh s.index taken :=
        hfresh.mono (fun x hx => List.mem_cons_of_mem _ (List.mem_append_right _ hx))
          (Nat.le_refl _)
      have hbefore : Within (fun x => x.1 ∈ mark :: first.marks) taken taken₁ := by
        refine Within.trans (Taken.within_insert taken ?_) (hwithin₁.mono fun x hx => ?_)
        · exact List.mem_cons_self
        · exact List.mem_cons_of_mem _ hx.1
      refine hold.within hbefore fun x hx _ hother => ?_
      rcases List.mem_cons.mp hother with heq | hin
      · exact hmark (heq ▸ List.mem_append_right _ hx)
      · exact (List.nodup_append.mp hbranches).2.2 _ hin _ hx rfl
    have hsofar : Within ((choice mark first second).Chosen s.index) taken taken₁ :=
      hmarked.trans (hwithin₁.mono fun x hx => chosen_branch (Or.inl hx))
    obtain ⟨hnone', hsome'⟩ := hsecond s taken₁ k hrounds hfreshSecond
    simp only [munch, hread, Option.none_or, hrun₁]
    refine ⟨fun hfail => ?_, fun rest hrest hk => ?_⟩
    · obtain ⟨taken₂, hrun₂, hwithin₂⟩ := hnone' hfail
      exact ⟨taken₂, hrun₂,
        hsofar.trans (hwithin₂.mono fun x hx => chosen_branch (Or.inr hx))⟩
    · have hk' : Succeeds k s taken₁ (second.Chosen s.index) rest := fun t taken' hat hwithin =>
        hk t taken' hat (hsofar.trans (hwithin.mono fun x hx => chosen_branch (Or.inr hx)))
      exact (hsome' rest hrest hk').trans (.refl s) hsofar rfl
        fun x hx => chosen_branch (Or.inr hx)

/-- An optional sign: where what follows fails behind it, it fails before it as well, since it
does not begin with a sign. -/
theorem settles_sign {mark : Mark} {set : CharSet} {second : Node} {rounds : Nat}
    (hmarks : (seq (choice mark (oneOf set) empty) second).marks.Nodup)
    (hsecond : second.Settles rounds) (hrefuses : second.refuses set = true) :
    (seq (choice mark (oneOf set) empty) second).Settles rounds := by
  intro s taken k hrounds hfresh
  have hmark : mark ∉ second.marks := (List.nodup_cons.mp hmarks).1
  have hmarked : Within ((seq (choice mark (oneOf set) empty) second).Chosen s.index) taken
      (taken.insert (mark, s.index)) := Taken.within_insert taken (chosen_first chosen_mark)
  have hfresh' : second.Fresh s.index (taken.insert (mark, s.index)) := by
    have hold : second.Fresh s.index taken :=
      hfresh.mono (List.subset_append_right _ _) (Nat.le_refl _)
    exact hold.insert hmark
  have hchoice : ∀ k, (choice mark (oneOf set) empty).run rounds k s taken =
      match (oneOf set).run rounds k s (taken.insert (mark, s.index)) with
      | .ok t => .ok t
      | .error taken' => k s taken' :=
    fun k => run_choice (hfresh (mark, s.index) List.mem_cons_self (Nat.le_refl _))
  have hstart : (seq (choice mark (oneOf set) empty) second).run rounds k s taken =
      (choice mark (oneOf set) empty).run rounds (second.run rounds k) s taken := rfl
  obtain ⟨hnone, hsome⟩ := run_of_plain (n := oneOf set) rfl rounds s
  rw [hstart, hchoice]
  cases hread : (oneOf set).munch s.rest with
  | none =>
    -- no sign: all is as if the second part were alone
    rw [hnone hread]
    obtain ⟨hfail, hgo⟩ := hsecond s (taken.insert (mark, s.index)) k hrounds hfresh'
    have hmunch : (seq (choice mark (oneOf set) empty) second).munch s.rest =
        second.munch s.rest := by
      rw [munch, munch, hread]
      rfl
    rw [hmunch]
    refine ⟨fun hrest => ?_, fun rest hrest hk => ?_⟩
    · obtain ⟨taken', hrun, hwithin⟩ := hfail hrest
      exact ⟨taken', hrun, hmarked.trans (hwithin.mono fun x hx => chosen_second hx.1)⟩
    · have hk' : Succeeds k s (taken.insert (mark, s.index)) (second.Chosen s.index) rest :=
        fun t taken' hat hwithin => hk t taken' hat
          (hmarked.trans (hwithin.mono fun x hx => chosen_second hx.1))
      exact (hgo rest hrest hk').trans (.refl s) hmarked rfl fun x hx => chosen_second hx.1
  | some mid =>
    obtain ⟨t, hat, hrun⟩ := hsome mid hread
    have hlength := hat.length_le
    obtain ⟨hfail, hgo⟩ := hsecond t (taken.insert (mark, s.index)) k (by omega)
      (hfresh'.mono (List.Subset.refl _) hat.index_le)
    have hmunch : (seq (choice mark (oneOf set) empty) second).munch s.rest =
        second.munch mid := by
      rw [munch, munch, hread]
      rfl
    rw [hmunch, hrun]
    rw [hat.rest] at hfail hgo
    refine ⟨fun hrest => ?_, fun rest hrest hk => ?_⟩
    · obtain ⟨taken₁, hrun₁, hwithin₁⟩ := hfail hrest
      obtain ⟨c, hc, hcons⟩ := (munch_oneOf_eq_some_iff set s.rest mid).mp hread
      obtain ⟨taken₂, hrun₂, hwithin₂⟩ :=
        run_of_refuses hrefuses rounds hcons hc k taken₁
      rw [hrun₁]
      refine ⟨taken₂, hrun₂, (hmarked.trans (hwithin₁.mono ?_)).trans (hwithin₂.mono ?_)⟩
      · exact fun x hx => chosen_second hx.1
      · exact fun x hx => chosen_second hx
    · have hk' : Succeeds k t (taken.insert (mark, s.index)) (second.Chosen t.index) rest :=
        fun u taken' hat' hwithin => hk u taken' (hat.trans hat')
          (hmarked.trans (hwithin.mono fun x hx => chosen_second hx.1))
      have hgoes := hgo rest hrest hk'
      obtain ⟨u, hok⟩ := hgoes.isOk hk'
      rw [hok]
      exact hgoes.trans hat hmarked hok.symm fun x hx => chosen_second hx.1

section Loops

variable {mark : Mark} {body : Node} {rounds : Nat} {s : Spot} {taken : Taken}

theorem fresh_body (hmark : mark ∉ body.marks)
    (hfresh : (star mark true body).Fresh s.index taken) :
    body.Fresh s.index (taken.insert (mark, s.index)) := by
  have hold : body.Fresh s.index taken :=
    hfresh.mono (List.subset_cons_self _ _) (Nat.le_refl _)
  exact hold.insert hmark

theorem within_round {taken' : Taken}
    (h : Within (body.Chosen s.index) (taken.insert (mark, s.index)) taken') :
    Within (fun x => x.1 ∈ mark :: body.marks) taken taken' := by
  have hmarked : Within (fun x => x.1 ∈ mark :: body.marks) taken
      (taken.insert (mark, s.index)) := Taken.within_insert taken List.mem_cons_self
  exact hmarked.trans (h.mono fun x hx => List.mem_cons_of_mem _ hx.1)

theorem fresh_behind {t : Spot} {taken' : Taken} {mid : List Char}
    (hfresh : (star mark true body).Fresh s.index taken) (hat : s.At mid t)
    (hshort : mid.length < s.rest.length) (h : Within (fun x => x.2 = s.index) taken taken') :
    (star mark true body).Fresh t.index taken' := by
  have hlater : s.index < t.index := by
    have htotal := hat.total
    omega
  refine (hfresh.mono (List.Subset.refl _) hat.index_le).within h fun x _ hle hplace => ?_
  omega

theorem run_loop (hfresh : (star mark true body).Fresh s.index taken) (k : Continuation)
    (n : Nat) :
    loop mark true (body.run rounds) k (n + 1) s taken =
      match body.run rounds (loop mark true (body.run rounds) k n) s
        (taken.insert (mark, s.index)) with
      | .ok t => .ok t
      | .error taken' => k s taken' := by
  have hmark : taken.contains (mark, s.index) = false :=
    hfresh (mark, s.index) List.mem_cons_self (Nat.le_refl _)
  simp only [loop, choose, if_true]
  split
  · next hthere =>
    rw [hmark] at hthere
    cases hthere
  · rfl

/-- A loop is left where its body reads nothing. -/
theorem loop_stops (hbody : body.Settles rounds) (hmark : mark ∉ body.marks) (k : Continuation)
    (n : Nat) (hrounds : s.rest.length < rounds)
    (hfresh : (star mark true body).Fresh s.index taken) (hread : body.munch s.rest = none) :
    GoesOn (loop mark true (body.run rounds) k (n + 1) s taken) k s taken
      (fun x => x.1 ∈ mark :: body.marks) s.rest := by
  obtain ⟨taken', hrun, hwithin⟩ :=
    (hbody s _ (loop mark true (body.run rounds) k n) hrounds (fresh_body hmark hfresh)).1 hread
  rw [run_loop hfresh, hrun]
  exact ⟨s, taken', .refl s, within_round hwithin, rfl⟩

/-- The rounds of a loop, by induction on the number of rounds that there may be. The body makes
its choices before it reads, so that every round is fresh: it begins behind the places where the
rounds before it chose. -/
theorem loop_goesOn (hbody : body.Settles rounds) (hshort : Shortens body.munch)
    (hfront : body.choosesFirst = true) (hmark : mark ∉ body.marks) (k : Continuation) (n : Nat)
    (hn : s.rest.length ≤ n) (hrounds : s.rest.length < rounds)
    (hfresh : (star mark true body).Fresh s.index taken)
    (hk : Succeeds k s taken (fun x => x.1 ∈ mark :: body.marks) (munchAll body.munch n s.rest)) :
    GoesOn (loop mark true (body.run rounds) k (n + 1) s taken) k s taken
      (fun x => x.1 ∈ mark :: body.marks) (munchAll body.munch n s.rest) := by
  induction n generalizing s taken with
  | zero =>
    have hread : body.munch s.rest = none := by
      cases hread : body.munch s.rest with
      | none => rfl
      | some mid =>
        have hlt := hshort _ _ hread
        omega
    exact loop_stops hbody hmark k 0 hrounds hfresh hread
  | succ n ih =>
    cases hread : body.munch s.rest with
    | none =>
      rw [munchAll_of_none hread]
      exact loop_stops hbody hmark k (n + 1) hrounds hfresh hread
    | some mid =>
      have hlt := hshort _ _ hread
      rw [munchAll_of_some hread] at hk ⊢
      -- the rounds that follow, wherever the first one ends
      have hnext : ∀ t taken', s.At mid t →
          Within (body.Chosen s.index) (taken.insert (mark, s.index)) taken' →
          Succeeds k t taken' (fun x => x.1 ∈ mark :: body.marks) (munchAll body.munch n mid) ∧
          GoesOn (loop mark true (body.run rounds) k (n + 1) t taken') k t taken'
            (fun x => x.1 ∈ mark :: body.marks) (munchAll body.munch n mid) := by
        intro t taken' hat hwithin
        have hk' : Succeeds k t taken' (fun x => x.1 ∈ mark :: body.marks)
            (munchAll body.munch n mid) := fun u taken'' hat' hwithin' =>
          hk u taken'' (hat.trans hat') ((within_round hwithin).trans hwithin')
        have hhere : Within (fun x => x.2 = s.index) taken taken' := by
          refine Within.trans (Taken.within_insert taken ?_) (hwithin.mono fun x hx => ?_)
          · rfl
          · exact hx.2 hfront
        have hfresh' := fresh_behind hfresh hat hlt hhere
        have hrest := hat.rest
        have hgoes := ih (s := t) (by rw [hrest]; omega) (by rw [hrest]; omega) hfresh'
          (by rw [hrest]; exact hk')
        rw [hrest] at hgoes
        exact ⟨hk', hgoes⟩
      have hcontinues : Succeeds (loop mark true (body.run rounds) k (n + 1)) s
          (taken.insert (mark, s.index)) (body.Chosen s.index) mid := by
        intro t taken' hat hwithin
        obtain ⟨hk', hgoes⟩ := hnext t taken' hat hwithin
        exact hgoes.isOk hk'
      have hround := (hbody s _ _ hrounds (fresh_body hmark hfresh)).2 mid hread hcontinues
      obtain ⟨u, hok⟩ := hround.isOk hcontinues
      obtain ⟨t, taken', hat, hwithin, hrun⟩ := hround
      rw [run_loop hfresh, hok]
      exact (hnext t taken' hat hwithin).2.trans hat (within_round hwithin)
        (hok.symm.trans hrun) fun x hx => hx

theorem settles_star (hmarks : (star mark true body).marks.Nodup) (hbody : body.Settles rounds)
    (hshort : Shortens body.munch) (hfront : body.choosesFirst = true) :
    (star mark true body).Settles rounds := by
  intro s taken k hrounds hfresh
  obtain ⟨n, rfl⟩ : ∃ n, rounds = n + 1 := ⟨rounds - 1, by omega⟩
  have hchosen : ∀ x : Mark × Nat, x.1 ∈ mark :: body.marks →
      (star mark true body).Chosen s.index x := fun x hx => ⟨hx, fun hfirst => by cases hfirst⟩
  constructor
  · intro hnone
    cases hnone
  intro rest hrest hk
  have hall : munchAll body.munch n s.rest = rest := by
    rw [munchAll_eq hshort (by omega)]
    exact Option.some.inj hrest
  rw [← hall] at hk ⊢
  obtain ⟨t, taken', hat, hwithin, hrun⟩ :=
    loop_goesOn hbody hshort hfront (List.nodup_cons.mp hmarks).1 k n (by omega) hrounds hfresh
      fun t taken' hat hwithin => hk t taken' hat (hwithin.mono hchosen)
  exact ⟨t, taken', hat, hwithin.mono hchosen, hrun⟩

theorem settles_plus (hmarks : (plus mark true body).marks.Nodup) (hbody : body.Settles rounds)
    (hshort : Shortens body.munch) (hfront : body.choosesFirst = true) :
    (plus mark true body).Settles rounds := by
  intro s taken k hrounds hfresh
  have hchosen : ∀ x : Mark × Nat, x.1 ∈ mark :: body.marks →
      (plus mark true body).Chosen s.index x := fun x hx => ⟨hx, fun hfirst => by cases hfirst⟩
  have hround : ∀ taken', Within (body.Chosen s.index) taken taken' →
      Within ((plus mark true body).Chosen s.index) taken taken' :=
    fun taken' h => h.mono fun x hx => hchosen x (List.mem_cons_of_mem _ hx.1)
  have hfreshBody : body.Fresh s.index taken :=
    hfresh.mono (List.subset_cons_self _ _) (Nat.le_refl _)
  obtain ⟨hnone, hsome⟩ :=
    hbody s taken ((star mark true body).run rounds k) hrounds hfreshBody
  constructor
  · intro hfail
    obtain ⟨taken', hrun, hwithin⟩ := hnone (Option.map_eq_none_iff.mp hfail)
    exact ⟨taken', hrun, hround taken' hwithin⟩
  intro rest hrest hk
  obtain ⟨mid, hmid, hall⟩ := Option.map_eq_some_iff.mp hrest
  have hlt := hshort _ _ hmid
  have hnext : ∀ t taken', s.At mid t → Within (body.Chosen s.index) taken taken' →
      Succeeds k t taken' ((star mark true body).Chosen t.index) rest ∧
      GoesOn ((star mark true body).run rounds k t taken') k t taken'
        ((star mark true body).Chosen t.index) rest := by
    intro t taken' hat hwithin
    have hk' : Succeeds k t taken' ((star mark true body).Chosen t.index) rest :=
      fun u taken'' hat' hwithin' => hk u taken'' (hat.trans hat')
        ((hround taken' hwithin).trans (hwithin'.mono fun x hx => hchosen x hx.1))
    have hfresh' : (star mark true body).Fresh t.index taken' :=
      fresh_behind hfresh hat hlt (hwithin.mono fun x hx => hx.2 hfront)
    have hlength := hat.length_le
    refine ⟨hk', ?_⟩
    refine (settles_star hmarks hbody hshort hfront t taken' k (by omega) hfresh').2 _ ?_ hk'
    rw [hat.rest]
    exact congrArg some hall
  have hcontinues : Succeeds ((star mark true body).run rounds k) s taken
      (body.Chosen s.index) mid := by
    intro t taken' hat hwithin
    obtain ⟨hk', hgoes⟩ := hnext t taken' hat hwithin
    exact hgoes.isOk hk'
  obtain ⟨t, taken', hat, hwithin, hrun⟩ := hsome mid hmid hcontinues
  exact (hnext t taken' hat hwithin).2.trans hat (hround taken' hwithin) hrun
    fun x hx => hchosen x hx.1

end Loops

/-- The run of a committed node is its munching. -/
theorem settles_of_committed {n : Node} (h : n.committed = true) (hmarks : n.marks.Nodup)
    (rounds : Nat) : n.Settles rounds := by
  induction n with
  | empty | oneOf => exact settles_of_plain rfl rounds
  | require | group => cases h
  | seq first second ihFirst ihSecond =>
    simp only [committed, Bool.and_eq_true, Bool.or_eq_true] at h
    obtain ⟨⟨hfirst, hsecond⟩, hkind⟩ := h
    obtain ⟨hmarksFirst, hmarksSecond, -⟩ := List.nodup_append.mp hmarks
    have hsettles := ihSecond hsecond hmarksSecond
    rcases hkind with (hplain | htotal) | hsign
    · exact settles_seq hmarks (ihFirst hfirst hmarksFirst) hsettles (Or.inl hplain)
    · exact settles_seq hmarks (ihFirst hfirst hmarksFirst) hsettles (Or.inr htotal)
    · obtain ⟨set, hset, hrefuses⟩ := (Option.any_eq_true _ _).mp hsign
      obtain ⟨mark, rfl⟩ := eq_of_sign? hset
      exact settles_sign hmarks hsettles hrefuses
  | choice mark first second ihFirst ihSecond =>
    simp only [committed, Bool.and_eq_true] at h
    obtain ⟨-, hbranches⟩ := List.nodup_cons.mp hmarks
    obtain ⟨hmarksFirst, hmarksSecond, -⟩ := List.nodup_append.mp hbranches
    exact settles_choice hmarks (ihFirst h.1 hmarksFirst) (ihSecond h.2 hmarksSecond)
  | star mark greedy body ih =>
    simp only [committed, Bool.and_eq_true] at h
    obtain ⟨⟨⟨rfl, hbody⟩, hreads⟩, hfront⟩ := h
    exact settles_star hmarks (ih hbody (List.nodup_cons.mp hmarks).2)
      (shortens_munch hreads) hfront
  | plus mark greedy body ih =>
    simp only [committed, Bool.and_eq_true] at h
    obtain ⟨⟨⟨rfl, hbody⟩, hreads⟩, hfront⟩ := h
    exact settles_plus hmarks (ih hbody (List.nodup_cons.mp hmarks).2)
      (shortens_munch hreads) hfront

/-- A search from the beginning of a text for a committed node behind the anchor. -/
theorem search_eq_munch {n : Node} (h : n.committed = true) (hmarks : n.marks.Nodup)
    (text : List Char) :
    (∃ s, (seq (require .textStart) n).search text = some (0, s) ∧
      ∃ rest, n.munch text = some rest ∧ s.index + rest.length = text.length) ∨
    ((seq (require .textStart) n).search text = none ∧ n.munch text = none) := by
  have hsettles := settles_of_committed h hmarks (text.length + 1)
  have hfresh : n.Fresh 0 ∅ := fun x _ _ => Std.HashSet.contains_empty
  obtain ⟨hnone, hsome⟩ :=
    hsettles ⟨none, text, 0, []⟩ ∅ (fun s _ => .ok s) (Nat.lt_succ_self _) hfresh
  have hstart : (seq (require .textStart) n).run (text.length + 1) (fun s _ => .ok s)
      ⟨none, text, 0, []⟩ ∅ = n.run (text.length + 1) (fun s _ => .ok s) ⟨none, text, 0, []⟩ ∅ :=
    rfl
  unfold search
  cases hmunch : n.munch text with
  | none =>
    obtain ⟨taken, hrun, -⟩ := hnone hmunch
    right
    refine ⟨?_, rfl⟩
    unfold searchFrom
    rw [hstart, hrun]
    cases text <;> rfl
  | some rest =>
    obtain ⟨s, taken, hat, -, hrun⟩ := hsome rest hmunch fun t _ _ _ => ⟨t, rfl⟩
    left
    refine ⟨s, ?_, rest, rfl, ?_⟩
    · unfold searchFrom
      rw [hstart, hrun]
    · have htotal := hat.total
      simpa using htotal

end Node

end Regex

/-- The pattern is a committed node behind the anchor, without groups. -/
structure Pattern.Munches (p : Pattern) (n : Regex.Node) : Prop where
  anchored : p.anchored.node = .seq (.require .textStart) n
  groupCount : p.anchored.groupCount = 1
  committed : n.committed = true
  marks : n.marks.Nodup

/-- Such a pattern matches exactly what its node munches. -/
theorem Pattern.Munches.find?_eq {p : Pattern} {n : Regex.Node} (h : p.Munches n)
    (text : List Char) :
    p.find? text = (n.munch text).map fun rest => ⟨⟨0, text.length - rest.length⟩, []⟩ := by
  unfold find? Regex.find?
  rw [h.anchored, h.groupCount]
  rcases Regex.Node.search_eq_munch h.committed h.marks text with
    ⟨s, hsearch, rest, hmunch, hindex⟩ | ⟨hsearch, hmunch⟩
  · have hstop : s.index = text.length - rest.length := by omega
    rw [hsearch, hmunch, Option.map_some, ← hstop]
    rfl
  · rw [hsearch, hmunch]
    rfl

end Descent
