import Descent.Regex.Meaning

/-!
The normal form of expressions. The branches of a choice are no choices themselves, and the parts
of a row are no rows. Everything that phrases stand for is of this form, and building the choice
of one expression of this form again gives the expression itself: a group around a pattern that
only sets flags, and sets none, changes nothing.
-/
namespace Descent.Regex.Expression

open Text (CharSet)

def isChoice : Expression → Bool
  | either _ _ => true
  | _ => false

/-- What may stand in a row in front of something. -/
def isPart : Expression → Bool
  | empty | seq _ _ => false
  | _ => true

/-- A row hangs to the right and has no empty parts. -/
def Flat : Expression → Prop
  | seq first second => first.isPart = true ∧ second ≠ empty ∧ second.Flat
  | _ => True

/-- What may be a branch of a choice. -/
def Branch (e : Expression) : Prop := e.isChoice = false ∧ e.Flat

def Normal (e : Expression) : Prop := ∀ b ∈ e.branches, b.Branch

theorem branches_of_not_choice {e : Expression} (h : e.isChoice = false) : e.branches = [e] := by
  cases e with
  | either => cases h
  | _ => rfl

theorem Branch.normal {e : Expression} (h : e.Branch) : e.Normal := by
  intro b hb
  rw [branches_of_not_choice h.1] at hb
  rw [List.mem_singleton.mp hb]
  exact h

theorem Normal.flat {e : Expression} (h : e.Normal) : e.Flat := by
  cases e with
  | seq first second => exact (h _ List.mem_cons_self).2
  | _ => trivial

theorem flat_of_isPart {e : Expression} (h : e.isPart = true) : e.Flat := by
  cases e with
  | seq => cases h
  | _ => trivial

section Rows

theorem concat_of_isPart {first : Expression} (h : first.isPart = true) (second : Expression) :
    first.concat second = if second = empty then first else seq first second := by
  cases first with
  | empty | seq => cases h
  | _ => cases second <;> rfl

theorem concat_empty {e : Expression} (h : e.Flat) : e.concat empty = e := by
  induction e with
  | seq first second _ ih =>
    obtain ⟨hfirst, hsecond, hflat⟩ := h
    rw [concat, ih hflat, concat_of_isPart hfirst, if_neg hsecond]
  | _ => rfl

theorem concat_ne_empty {first : Expression} (h : first.Flat) (hfirst : first ≠ empty)
    (second : Expression) : first.concat second ≠ empty := by
  have hpart : ∀ {e : Expression}, e.isPart = true → ∀ e', e.concat e' ≠ empty := by
    intro e he e'
    rw [concat_of_isPart he]
    split
    · rintro rfl
      cases he
    · exact fun hseq => by cases hseq
  cases first with
  | empty => exact absurd rfl hfirst
  | seq a b => exact hpart h.1 (b.concat second)
  | _ => exact hpart rfl second

theorem branch_concat {first second : Expression} (hfirst : first.Flat) (hsecond : second.Flat)
    (hfront : first ≠ empty) (hback : second ≠ empty) : (first.concat second).Branch := by
  have hpart : ∀ {e e' : Expression}, e.isPart = true → e'.Flat → e' ≠ empty →
      (e.concat e').Branch := by
    intro e e' he he' hne
    rw [concat_of_isPart he, if_neg hne]
    exact ⟨rfl, he, hne, he'⟩
  induction first with
  | empty => exact absurd rfl hfront
  | seq a b _ ih =>
    obtain ⟨ha, hb, hflat⟩ := hfirst
    change (a.concat (b.concat second)).Branch
    exact hpart ha (ih hflat hb).2 (concat_ne_empty hflat hb second)
  | _ => exact hpart rfl hsecond hback

theorem Flat.concat {first second : Expression} (hfirst : first.Flat) (hsecond : second.Flat) :
    (first.concat second).Flat := by
  by_cases hfront : first = empty
  · rw [hfront]
    exact hsecond
  · by_cases hback : second = empty
    · rw [hback, concat_empty hfirst]
      exact hfirst
    · exact (branch_concat hfirst hsecond hfront hback).2

theorem Normal.concat {first second : Expression} (hfirst : first.Normal)
    (hsecond : second.Normal) : (first.concat second).Normal := by
  by_cases hfront : first = empty
  · rw [hfront]
    exact hsecond
  · by_cases hback : second = empty
    · rw [hback, concat_empty hfirst.flat]
      exact hfirst
    · exact (branch_concat hfirst.flat hsecond.flat hfront hback).normal

theorem Flat.parts {e : Expression} (h : e.Flat) : ∀ part ∈ e.parts, part.Flat := by
  induction e with
  | seq first second _ ih =>
    obtain ⟨hfirst, -, hflat⟩ := h
    intro part hpart
    rcases List.mem_cons.mp hpart with rfl | hpart
    · exact flat_of_isPart hfirst
    · exact ih hflat part hpart
  | _ =>
    intro part hpart
    rw [List.mem_singleton.mp hpart]
    trivial

theorem flat_concatAll {es : List Expression} (h : ∀ e ∈ es, e.Flat) : (concatAll es).Flat := by
  induction es with
  | nil => trivial
  | cons e es ih =>
    exact (h e List.mem_cons_self).concat (ih fun e' he' => h e' (List.mem_cons_of_mem _ he'))

theorem front_of_row {e : Expression} (h : e.Flat) (hlong : 1 < e.parts.length) {common : Nat}
    (hcommon : 0 < common) :
    (concatAll (e.parts.take common)).Flat ∧ concatAll (e.parts.take common) ≠ empty := by
  have hflat : ∀ part ∈ e.parts.take common, part.Flat :=
    fun part hpart => h.parts part (List.mem_of_mem_take hpart)
  refine ⟨flat_concatAll hflat, ?_⟩
  obtain ⟨n, rfl⟩ : ∃ n, common = n + 1 := ⟨common - 1, by omega⟩
  cases e with
  | seq first second =>
    have hfirst : first ≠ empty := by
      rintro rfl
      cases h.1
    exact concat_ne_empty (flat_of_isPart h.1) hfirst _
  | _ => exact absurd hlong (Nat.lt_irrefl 1)

end Rows

section Choices

theorem branches_foldr_either (es : List Expression) (last : Expression) :
    (es.foldr either last).branches = es ++ last.branches := by
  induction es with
  | nil => rfl
  | cons e es ih => exact congrArg (e :: ·) ih

theorem branches_ne_nil (e : Expression) : e.branches ≠ [] := by
  cases e <;> exact List.cons_ne_nil _ _

/-- A choice between branches has them as its branches, unless it is a set. -/
theorem choice_cases {es : List Expression} (hne : es ≠ []) (h : ∀ e ∈ es, e.isChoice = false) :
    (∃ set, choice es = oneOf set) ∨ (choice es).branches = es := by
  unfold choice
  split
  · exact .inl ⟨_, rfl⟩
  · right
    rw [List.getLast?_eq_some_getLast hne]
    dsimp only
    rw [branches_foldr_either, branches_of_not_choice (h _ (List.getLast_mem hne)),
      List.dropLast_concat_getLast hne]

theorem choice_of_two (first second : Expression) (es : List Expression) :
    (choice (first :: second :: es)).Flat ∧ choice (first :: second :: es) ≠ empty := by
  unfold choice
  split
  · exact ⟨trivial, fun h => by cases h⟩
  · rw [List.getLast?_eq_some_getLast (List.cons_ne_nil _ _)]
    exact ⟨trivial, fun h => by cases h⟩

theorem exists_two_branches (first second : Expression) (es : List Expression) :
    ∃ b b' bs, (first :: second :: es).flatMap branches = b :: b' :: bs := by
  obtain ⟨b, bs, hfirst⟩ := List.exists_cons_of_ne_nil (branches_ne_nil first)
  obtain ⟨b', bs', hsecond⟩ := List.exists_cons_of_ne_nil (branches_ne_nil second)
  rw [List.flatMap_cons, List.flatMap_cons, hfirst, hsecond]
  cases bs with
  | nil => exact ⟨b, b', _, rfl⟩
  | cons c bs => exact ⟨b, c, _, rfl⟩

/-- What is built of branches is one, or has them as its branches. -/
theorem alternation_cases {es : List Expression} (h : ∀ e ∈ es, e.Normal) :
    (alternation es).Branch ∨ (alternation es).branches = es.flatMap branches := by
  have hbranch : ∀ b ∈ es.flatMap branches, b.Branch := by
    intro b hb
    obtain ⟨e, he, hb⟩ := List.mem_flatMap.mp hb
    exact h e he b hb
  unfold alternation
  revert hbranch
  generalize es.flatMap branches = bs
  intro hbranch
  match bs, hbranch with
  | [], _ => exact .inl ⟨rfl, trivial⟩
  | [b], hbranch => exact .inl (hbranch b List.mem_cons_self)
  | first :: second :: others, hbranch =>
    dsimp only
    split
    · next hfront =>
      left
      rw [Bool.and_eq_true, decide_eq_true_eq, List.map_cons, List.all_cons, Bool.and_eq_true,
        decide_eq_true_eq] at hfront
      obtain ⟨hcommon, hlong, -⟩ := hfront
      obtain ⟨hflat, hne⟩ := front_of_row (hbranch first List.mem_cons_self).2 hlong hcommon
      rw [List.map_cons, List.map_cons, List.map_cons, List.map_cons]
      obtain ⟨b, b', bs, hbs⟩ := exists_two_branches _ _ _
      rw [hbs]
      obtain ⟨hflat', hne'⟩ := choice_of_two b b' bs
      exact branch_concat hflat hflat' hne hne'
    · rcases choice_cases (List.cons_ne_nil _ _) fun b hb => (hbranch b hb).1 with
        ⟨set, hset⟩ | hbranches
      · rw [hset]
        exact .inl ⟨rfl, trivial⟩
      · exact .inr hbranches

theorem normal_alternation {es : List Expression} (h : ∀ e ∈ es, e.Normal) :
    (alternation es).Normal := by
  rcases alternation_cases h with hbranch | hbranches
  · exact hbranch.normal
  · intro b hb
    rw [hbranches] at hb
    obtain ⟨e, he, hb⟩ := List.mem_flatMap.mp hb
    exact h e he b hb

/-- A choice that was built once is not changed when it is built again. -/
theorem alternation_alternation {es : List Expression} (h : ∀ e ∈ es, e.Normal) :
    alternation [alternation es] = alternation es := by
  rcases alternation_cases h with hbranch | hbranches
  · generalize alternation es = e at hbranch
    unfold alternation
    rw [List.flatMap_singleton, branches_of_not_choice hbranch.1]
  · have hsame : [alternation es].flatMap branches = es.flatMap branches := by
      rw [List.flatMap_singleton, hbranches]
    unfold alternation at hsame ⊢
    rw [hsame]

end Choices

end Descent.Regex.Expression

namespace Descent.Regex

theorem Expression.normal_leaf {e : Expression} (h : e.isChoice = false) (hflat : e.Flat) :
    ∀ e' ∈ [e], e'.Normal := by
  intro e' he'
  rw [List.mem_singleton.mp he']
  exact Branch.normal ⟨h, hflat⟩

theorem Expression.normal_repetition (least : Nat) (most : Option Nat) (greedy : Bool)
    {body : Expression} (h : body.Normal) : (repetition least most greedy body).Normal := by
  unfold repetition
  extract_lets least' most'
  split
  · exact Branch.normal ⟨rfl, trivial⟩
  · split
    · exact h
    · exact Branch.normal ⟨rfl, trivial⟩

/-- What phrases stand for is in normal form. -/
theorem Phrase.normal_of_branches? {phrase : Phrase} {f f' : Flags} {es : List Expression}
    (h : phrase.branches? f = some (es, f')) : ∀ e ∈ es, e.Normal := by
  induction phrase generalizing f f' es with
  | empty | change | lineStart | lineEnd | textStart | textEnd | word =>
    cases h
    exact Expression.normal_leaf rfl trivial
  | char c asByte =>
    simp only [branches?, Option.ite_none_right_eq_some, Option.some.injEq, Prod.mk.injEq] at h
    obtain ⟨-, rfl, -⟩ := h
    exact Expression.normal_leaf rfl trivial
  | dot =>
    obtain ⟨set, -, hresult⟩ := Option.bind_eq_some_iff.mp h
    cases hresult
    exact Expression.normal_leaf rfl trivial
  | named negated set =>
    obtain ⟨set, -, hresult⟩ := Option.bind_eq_some_iff.mp h
    cases hresult
    exact Expression.normal_leaf rfl trivial
  | bracket negated body =>
    obtain ⟨inner, -, hresult⟩ := Option.bind_eq_some_iff.mp h
    obtain ⟨set, -, hresult⟩ := Option.bind_eq_some_iff.mp hresult
    cases hresult
    exact Expression.normal_leaf rfl trivial
  | group index body ih =>
    obtain ⟨⟨inner, after⟩, hinner, hresult⟩ := Option.bind_eq_some_iff.mp h
    cases hresult
    exact Expression.normal_leaf rfl trivial
  | scope flags body ih =>
    obtain ⟨⟨inner, after⟩, hinner, hresult⟩ := Option.bind_eq_some_iff.mp h
    cases hresult
    exact List.forall_mem_singleton.mpr (Expression.normal_alternation (ih hinner))
  | repeated least most greedy body ih =>
    obtain ⟨⟨inner, after⟩, hinner, hresult⟩ := Option.bind_eq_some_iff.mp h
    cases hresult
    exact List.forall_mem_singleton.mpr
      (Expression.normal_repetition _ _ _ (Expression.normal_alternation (ih hinner)))
  | seq first second ihFirst ihSecond =>
    obtain ⟨⟨front, between⟩, hfront, hresult⟩ := Option.bind_eq_some_iff.mp h
    obtain ⟨⟨back, after⟩, hback, hresult⟩ := Option.bind_eq_some_iff.mp hresult
    cases hresult
    exact List.forall_mem_singleton.mpr
      ((Expression.normal_alternation (ihFirst hfront)).concat
        (Expression.normal_alternation (ihSecond hback)))
  | either first second ihFirst ihSecond =>
    obtain ⟨⟨front, between⟩, hfront, hresult⟩ := Option.bind_eq_some_iff.mp h
    obtain ⟨⟨back, after⟩, hback, hresult⟩ := Option.bind_eq_some_iff.mp hresult
    cases hresult
    intro e he
    rcases List.mem_append.mp he with he | he
    · exact ihFirst hfront e he
    · exact ihSecond hback e he

/-- A group that sets no flags, behind the start of the text, only puts it in front. -/
theorem Phrase.meaning?_anchored {phrase : Phrase} {e : Expression}
    (h : phrase.meaning? {} = some e) :
    (seq .lineStart (scope [] phrase)).meaning? {} =
      some ((Expression.require .textStart).concat e) := by
  obtain ⟨⟨es, after⟩, hbranches, hresult⟩ := Option.bind_eq_some_iff.mp h
  cases hresult
  have hwhole : (seq .lineStart (scope [] phrase)).meaning? {} =
      some (Expression.alternation [(Expression.require .textStart).concat
        (.alternation [.alternation es])]) := by
    change (((phrase.branches? {}).bind _).bind _).bind _ = _
    rw [hbranches]
    rfl
  rw [hwhole, Expression.alternation_alternation (normal_of_branches? hbranches)]
  cases Expression.alternation es <;> rfl

end Descent.Regex
