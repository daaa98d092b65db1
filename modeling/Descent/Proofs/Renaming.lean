import Descent.Regex.Compiled

/-!
The marks of choices. A search tells the choices it has taken by their marks, and looks at marks
for nothing else: where an injective map gives every choice another mark, the search goes the same
way. The node of an expression that stands deeper in a tree is the same node with longer marks, so
that what an expression matches does not depend on where it stands.
-/
namespace Descent.Regex

namespace Node

def rename (f : Mark → Mark) : Node → Node
  | empty => empty
  | oneOf set => oneOf set
  | require a => require a
  | group index body => group index (body.rename f)
  | seq first second => seq (first.rename f) (second.rename f)
  | choice mark first second => choice (f mark) (first.rename f) (second.rename f)
  | star mark greedy body => star (f mark) greedy (body.rename f)
  | plus mark greedy body => plus (f mark) greedy (body.rename f)

variable {f : Mark → Mark}

theorem rename_optional (mark : Mark) (greedy : Bool) (body : Node) :
    (optional mark greedy body).rename f = optional (f mark) greedy (body.rename f) := by
  cases greedy <;> rfl

theorem rename_copies (body : Nat → Node) (i n : Nat) :
    (copies body i n).rename f = copies (fun i => (body i).rename f) i n := by
  fun_induction copies body i n with
  | case1 | case2 => rfl
  | case3 i n ih => rw [rename, ih, copies]

theorem rename_upTo (mark : Nat → Mark) (greedy : Bool) (body : Nat → Node) (i n : Nat) :
    (upTo mark greedy body i n).rename f =
      upTo (fun i => f (mark i)) greedy (fun i => (body i).rename f) i n := by
  fun_induction upTo mark greedy body i n with
  | case1 => rfl
  | case2 => exact rename_optional _ _ _
  | case3 i n ih => rw [rename_optional, rename, ih, upTo]

theorem rename_andThen (a b : Node) :
    (a.andThen b).rename f = (a.rename f).andThen (b.rename f) := by
  cases a <;> cases b <;> rfl

end Node

/-- An expression that stands further down has longer marks. -/
theorem Expression.toNode_append (e : Expression) (here tail : Mark) :
    e.toNode (here ++ tail) = (e.toNode here).rename (· ++ tail) := by
  induction e generalizing here with
  | empty | oneOf | require => rfl
  | group index body ih => exact congrArg (Node.group index) (ih (0 :: here))
  | seq first second ihFirst ihSecond =>
    have hfirst := ihFirst (0 :: here)
    have hsecond := ihSecond (1 :: here)
    rw [List.cons_append] at hfirst hsecond
    rw [toNode, toNode, hfirst, hsecond, Node.rename]
  | either first second ihFirst ihSecond =>
    have hfirst := ihFirst (0 :: here)
    have hsecond := ihSecond (1 :: here)
    rw [List.cons_append] at hfirst hsecond
    rw [toNode, toNode, hfirst, hsecond, Node.rename]
  | repeated least most greedy body ih =>
    have hcopy : ∀ i, body.toNode (i :: 1 :: (here ++ tail)) =
        (body.toNode (i :: 1 :: here)).rename (· ++ tail) := fun i => ih (i :: 1 :: here)
    simp only [toNode, hcopy]
    cases most with
    | some most =>
      rw [Node.rename_andThen, Node.rename_copies, Node.rename_upTo]
      rfl
    | none =>
      dsimp only
      split
      · rw [Node.rename, Node.rename_copies]
        rfl
      · split
        · rfl
        · split
          · rfl
          · rw [Node.rename_optional]
            rfl

section Runs

variable {f : Mark → Mark}

/-- The same choices under other marks. -/
def Taken.Renamed (f : Mark → Mark) (taken taken' : Taken) : Prop :=
  ∀ mark place, taken'.contains (f mark, place) = taken.contains (mark, place)

/-- The same match, or the same choices in vain. -/
inductive Attempt.Renamed (f : Mark → Mark) : Attempt → Attempt → Prop
  | ok (s : Spot) : Renamed f (.ok s) (.ok s)
  | error {taken taken' : Taken} (h : Taken.Renamed f taken taken') :
    Renamed f (.error taken) (.error taken')

/-- What comes of the one continuation comes of the other. -/
def Continuation.Renamed (f : Mark → Mark) (k k' : Continuation) : Prop :=
  ∀ s taken taken', Taken.Renamed f taken taken' → Attempt.Renamed f (k s taken) (k' s taken')

theorem Taken.Renamed.insert (hf : ∀ m m', f m = f m' → m = m') {taken taken' : Taken}
    (h : Taken.Renamed f taken taken') (mark : Mark) (place : Nat) :
    Taken.Renamed f (taken.insert (mark, place)) (taken'.insert (f mark, place)) := by
  intro other place'
  have hsame : ((f mark, place) == (f other, place')) = ((mark, place) == (other, place')) := by
    rw [Bool.eq_iff_iff, beq_iff_eq, beq_iff_eq, Prod.mk.injEq, Prod.mk.injEq]
    exact and_congr_left' ⟨hf _ _, congrArg f⟩
  rw [Std.HashSet.contains_insert, Std.HashSet.contains_insert, hsame, h other place']

theorem Node.choose_renamed (hf : ∀ m m', f m = f m' → m = m') (mark : Mark)
    {first first' second second' : Continuation} (hfirst : Continuation.Renamed f first first')
    (hsecond : Continuation.Renamed f second second') :
    Continuation.Renamed f (choose mark first second) (choose (f mark) first' second') := by
  intro s taken taken' h
  unfold choose
  rw [h mark s.index]
  split
  · exact .error h
  · have hinner := hfirst s _ _ (h.insert hf mark s.index)
    revert hinner
    generalize first s (taken.insert (mark, s.index)) = a
    generalize first' s (taken'.insert (f mark, s.index)) = a'
    rintro (u | h')
    · exact .ok u
    · exact hsecond s _ _ h'

theorem Node.loop_renamed (hf : ∀ m m', f m = f m' → m = m') (mark : Mark) (greedy : Bool)
    {body body' : Continuation → Continuation}
    (hbody : ∀ k k', Continuation.Renamed f k k' → Continuation.Renamed f (body k) (body' k'))
    {k k' : Continuation} (hk : Continuation.Renamed f k k') (rounds : Nat) :
    Continuation.Renamed f (loop mark greedy body k rounds)
      (loop (f mark) greedy body' k' rounds) := by
  induction rounds with
  | zero => exact fun s taken taken' h => .error h
  | succ rounds ih =>
    cases greedy with
    | true => exact choose_renamed hf mark (hbody _ _ ih) hk
    | false => exact choose_renamed hf mark hk (hbody _ _ ih)

/-- A run under other marks goes the same way. -/
theorem Node.run_renamed (hf : ∀ m m', f m = f m' → m = m') (rounds : Nat) (n : Node)
    {k k' : Continuation} (hk : Continuation.Renamed f k k') :
    Continuation.Renamed f (n.run rounds k) ((n.rename f).run rounds k') := by
  induction n generalizing k k' with
  | empty => exact hk
  | oneOf set =>
    intro s taken taken' h
    simp only [rename, run]
    cases s.read? set with
    | none => exact .error h
    | some t => exact hk t _ _ h
  | require a =>
    intro s taken taken' h
    simp only [rename, run]
    cases s.holds a with
    | false => exact .error h
    | true => exact hk s _ _ h
  | group index body ih =>
    intro s taken taken' h
    exact ih (fun t => hk (t.keep index s.index)) s _ _ h
  | seq first second ihFirst ihSecond => exact ihFirst (ihSecond hk)
  | choice mark first second ihFirst ihSecond =>
    exact choose_renamed hf mark (ihFirst hk) (ihSecond hk)
  | star mark greedy body ih => exact loop_renamed hf mark greedy (fun _ _ => ih) hk rounds
  | plus mark greedy body ih => exact ih (loop_renamed hf mark greedy (fun _ _ => ih) hk rounds)

end Runs

/-- Where an expression stands in a tree does not matter for what it matches at a place, if no
choice was taken before. -/
theorem Expression.run_toNode (e : Expression) (tail : Mark) (rounds : Nat) (s : Spot) :
    (∃ t, (e.toNode []).run rounds (fun s _ => .ok s) s ∅ = .ok t ∧
        (e.toNode tail).run rounds (fun s _ => .ok s) s ∅ = .ok t) ∨
      ∃ taken taken', (e.toNode []).run rounds (fun s _ => .ok s) s ∅ = .error taken ∧
        (e.toNode tail).run rounds (fun s _ => .ok s) s ∅ = .error taken' := by
  have hinjective : ∀ m m' : Mark, m ++ tail = m' ++ tail → m = m' :=
    fun _ _ => List.append_cancel_right
  have hdone : Continuation.Renamed (· ++ tail) (fun s _ => .ok s) (fun s _ => .ok s) :=
    fun s _ _ _ => .ok s
  have hempty : Taken.Renamed (· ++ tail) ∅ ∅ := by
    intro mark place
    rw [Std.HashSet.contains_empty, Std.HashSet.contains_empty]
  have hruns := Node.run_renamed hinjective rounds (e.toNode []) hdone s ∅ ∅ hempty
  rw [← e.toNode_append [] tail, List.nil_append] at hruns
  revert hruns
  generalize (e.toNode []).run rounds (fun s _ => .ok s) s ∅ = a
  generalize (e.toNode tail).run rounds (fun s _ => .ok s) s ∅ = a'
  rintro (t | -)
  · exact .inl ⟨t, rfl, rfl⟩
  · exact .inr ⟨_, _, rfl, rfl⟩

end Descent.Regex
