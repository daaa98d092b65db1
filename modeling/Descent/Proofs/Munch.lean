import Descent.Pattern

/-!
Reading without ever giving back. `Node.munch` takes of every choice the first branch that reads,
and of every loop as many rounds as read, without regard to what follows. The search takes such
decisions back where what follows fails, but it has no reason to for a node that is `committed`:
behind each choice of such a node, what follows inside the node cannot fail, or would fail without
the choice as well.
-/
namespace Descent.Regex

open Text (CharSet)

/-- Rounds of a reader up to the first that it refuses. -/
def munchAll (read : List Char → Option (List Char)) : Nat → List Char → List Char
  | 0, text => text
  | n + 1, text =>
    match read text with
    | none => text
    | some rest => munchAll read n rest

/-- The reader always reads something. -/
def Shortens (read : List Char → Option (List Char)) : Prop :=
  ∀ text rest, read text = some rest → rest.length < text.length

theorem munchAll_of_none {read : List Char → Option (List Char)} {text : List Char}
    (h : read text = none) (n : Nat) : munchAll read n text = text := by
  cases n with
  | zero => rfl
  | succ n => rw [munchAll, h]

theorem munchAll_of_some {read : List Char → Option (List Char)} {text rest : List Char}
    (h : read text = some rest) (n : Nat) :
    munchAll read (n + 1) text = munchAll read n rest := by
  rw [munchAll, h]

/-- More rounds than characters change nothing. -/
theorem munchAll_eq {read : List Char → Option (List Char)} (hread : Shortens read) {n : Nat}
    {text : List Char} (h : text.length ≤ n) :
    munchAll read n text = munchAll read text.length text := by
  induction n using Nat.strongRecOn generalizing text with
  | ind n ih =>
    cases hmore : read text with
    | none => rw [munchAll_of_none hmore, munchAll_of_none hmore]
    | some rest =>
      have hshort := hread _ _ hmore
      obtain ⟨m, rfl⟩ : ∃ m, n = m + 1 := ⟨n - 1, by omega⟩
      obtain ⟨l, hl⟩ : ∃ l, text.length = l + 1 := ⟨text.length - 1, by omega⟩
      rw [hl, munchAll_of_some hmore, munchAll_of_some hmore, ih m (by omega) (by omega)]
      rcases Nat.lt_or_ge l (m + 1) with hlt | hge
      · exact (ih l hlt (by omega)).symm
      · omega

theorem munchAll_suffix {read : List Char → Option (List Char)}
    (hread : ∀ text rest, read text = some rest → rest <:+ text) (n : Nat) (text : List Char) :
    munchAll read n text <:+ text := by
  induction n generalizing text with
  | zero => exact List.suffix_refl text
  | succ n ih =>
    cases hmore : read text with
    | none => exact ⟨[], munchAll_of_none hmore (n + 1)⟩
    | some rest =>
      rw [munchAll_of_some hmore]
      exact (ih rest).trans (hread _ _ hmore)

section Units

variable {α : Type} {read : List Char → Option (List Char)} {unit : α → List Char}

theorem munchAll_units (hread : ∀ a rest, read (unit a ++ rest) = some rest) (units : List α)
    (rest : List Char) (n : Nat) :
    munchAll read (units.length + n) (units.flatMap unit ++ rest) = munchAll read n rest := by
  induction units with
  | nil => rw [List.length_nil, Nat.zero_add, List.flatMap_nil, List.nil_append]
  | cons a units ih =>
    have hfirst := hread a (units.flatMap unit ++ rest)
    rw [List.flatMap_cons, List.append_assoc, List.length_cons, Nat.add_right_comm,
      munchAll_of_some hfirst, ih]

/-- Rounds over the texts of units, up to what the reader refuses. -/
theorem munchAll_flatMap (hread : ∀ a rest, read (unit a ++ rest) = some rest) (units : List α)
    {rest : List Char} (hrest : read rest = none) {n : Nat} (h : units.length ≤ n) :
    munchAll read n (units.flatMap unit ++ rest) = rest := by
  obtain ⟨m, rfl⟩ := Nat.exists_eq_add_of_le h
  rw [munchAll_units hread, munchAll_of_none hrest]

/-- Whatever rounds have passed is the text of units. -/
theorem exists_flatMap_of_munchAll (hread : ∀ text rest, read text = some rest →
    ∃ a, text = unit a ++ rest) (n : Nat) (text : List Char) :
    ∃ units : List α, text = units.flatMap unit ++ munchAll read n text := by
  induction n generalizing text with
  | zero => exact ⟨[], rfl⟩
  | succ n ih =>
    cases hmore : read text with
    | none => exact ⟨[], by rw [munchAll_of_none hmore]; rfl⟩
    | some rest =>
      obtain ⟨a, ha⟩ := hread text rest hmore
      obtain ⟨units, hunits⟩ := ih rest
      refine ⟨a :: units, ?_⟩
      rw [munchAll_of_some hmore, List.flatMap_cons, List.append_assoc, ← hunits, ha]

end Units

namespace Node

/-- The text behind what a node reads if it never gives back. -/
def munch : Node → List Char → Option (List Char)
  | empty, text => some text
  | oneOf set, text =>
    match text with
    | [] => none
    | c :: cs => if set.contains c then some cs else none
  | require _, _ => none
  | group _ body, text => body.munch text
  | seq first second, text => (first.munch text).bind second.munch
  | choice _ first second, text => (first.munch text).or (second.munch text)
  | star _ _ body, text => some (munchAll body.munch text.length text)
  | plus _ _ body, text =>
    (body.munch text).map fun rest => munchAll body.munch rest.length rest

def marks : Node → List Mark
  | empty | oneOf _ | require _ => []
  | group _ body => body.marks
  | seq first second => first.marks ++ second.marks
  | choice mark first second => mark :: (first.marks ++ second.marks)
  | star mark _ body | plus mark _ body => mark :: body.marks

def plain : Node → Bool
  | empty | oneOf _ => true
  | seq first second => first.plain && second.plain
  | _ => false

/-- Some way through the node never fails. -/
def total : Node → Bool
  | empty | star _ _ _ => true
  | seq first second => first.total && second.total
  | choice _ first second => first.total || second.total
  | _ => false

/-- Every way through the node reads. -/
def reads : Node → Bool
  | oneOf _ => true
  | seq first second => first.reads || second.reads
  | choice _ first second => first.reads && second.reads
  | plus _ _ body => body.reads
  | _ => false

/-- All choices are made before anything is read. -/
def choosesFirst : Node → Bool
  | empty | oneOf _ => true
  | seq first second => first.choosesFirst && second.plain
  | choice _ first second => first.choosesFirst && second.choosesFirst
  | _ => false

/-- The node does not begin with a character of the set. -/
def refuses (set : CharSet) : Node → Bool
  | oneOf set' => (CharSet.inter set set').ranges.isEmpty
  | seq first _ => first.refuses set
  | choice _ first second => first.refuses set && second.refuses set
  | plus _ _ body => body.refuses set
  | _ => false

/-- The set of a character that may be left out, as a sign. -/
def sign? : Node → Option CharSet
  | choice _ (oneOf set) empty => some set
  | _ => none

/-- No choice of the node is ever taken back: what follows it inside the node cannot fail, or
would fail without it as well. -/
def committed : Node → Bool
  | empty | oneOf _ => true
  | require _ | group _ _ => false
  | seq first second =>
    first.committed && second.committed &&
      (first.plain || second.total || first.sign?.any fun set => second.refuses set)
  | choice _ first second => first.committed && second.committed
  | star _ greedy body | plus _ greedy body =>
    greedy && body.committed && body.reads && body.choosesFirst

theorem munch_oneOf_eq_some_iff (set : CharSet) (text rest : List Char) :
    (oneOf set).munch text = some rest ↔ ∃ c, set.contains c = true ∧ text = c :: rest := by
  constructor
  · intro h
    cases text with
    | nil => cases h
    | cons c cs =>
      simp only [munch, Option.ite_none_right_eq_some, Option.some.injEq] at h
      exact ⟨c, h.1, by rw [h.2]⟩
  · intro h
    obtain ⟨c, hc, rfl⟩ := h
    exact if_pos hc

theorem munch_seq_eq_some_iff (first second : Node) (text rest : List Char) :
    (seq first second).munch text = some rest ↔
      ∃ mid, first.munch text = some mid ∧ second.munch mid = some rest := Option.bind_eq_some_iff

theorem munch_choice_eq_some_iff (mark : Mark) (first second : Node) (text rest : List Char) :
    (choice mark first second).munch text = some rest ↔
      first.munch text = some rest ∨ (first.munch text = none ∧ second.munch text = some rest) :=
  Option.or_eq_some_iff

theorem marks_of_plain {n : Node} (h : n.plain = true) : n.marks = [] := by
  induction n with
  | empty | oneOf => rfl
  | seq first second ihFirst ihSecond =>
    simp only [plain, Bool.and_eq_true] at h
    rw [marks, ihFirst h.1, ihSecond h.2, List.append_nil]
  | _ => cases h

theorem eq_of_sign? {n : Node} {set : CharSet} (h : n.sign? = some set) :
    ∃ mark, n = choice mark (oneOf set) empty := by
  unfold sign? at h
  split at h
  · cases h
    exact ⟨_, rfl⟩
  · cases h

theorem not_contains_of_refuses {set set' : CharSet} {c : Char}
    (h : (oneOf set').refuses set = true) (hc : set.contains c = true) :
    set'.contains c = false := by
  have hempty : (CharSet.inter set set').contains c = false := by
    unfold CharSet.contains
    rw [List.isEmpty_iff.mp h]
    rfl
  simpa [hc] using hempty

/-- What is left is an end of the text. -/
theorem munch_suffix {n : Node} {text rest : List Char} (h : n.munch text = some rest) :
    rest <:+ text := by
  induction n generalizing text rest with
  | empty =>
    cases h
    exact List.suffix_refl _
  | oneOf set =>
    obtain ⟨c, -, rfl⟩ := (munch_oneOf_eq_some_iff set text rest).mp h
    exact List.suffix_cons c rest
  | require => cases h
  | group index body ih => exact ih h
  | seq first second ihFirst ihSecond =>
    obtain ⟨mid, hmid, hrest⟩ := Option.bind_eq_some_iff.mp h
    exact (ihSecond hrest).trans (ihFirst hmid)
  | choice mark first second ihFirst ihSecond =>
    rcases Option.or_eq_some_iff.mp h with hfirst | ⟨-, hsecond⟩
    · exact ihFirst hfirst
    · exact ihSecond hsecond
  | star mark greedy body ih =>
    cases h
    exact munchAll_suffix (fun _ _ hmore => ih hmore) _ _
  | plus mark greedy body ih =>
    obtain ⟨mid, hmid, rfl⟩ := Option.map_eq_some_iff.mp h
    exact (munchAll_suffix (fun _ _ hmore => ih hmore) _ _).trans (ih hmid)

theorem shortens_munch {n : Node} (h : n.reads = true) : Shortens n.munch := by
  induction n with
  | oneOf set =>
    intro text rest hmunch
    obtain ⟨c, -, rfl⟩ := (munch_oneOf_eq_some_iff set text rest).mp hmunch
    exact Nat.lt_succ_self _
  | seq first second ihFirst ihSecond =>
    intro text rest hmunch
    obtain ⟨mid, hmid, hrest⟩ := Option.bind_eq_some_iff.mp hmunch
    have hle := (munch_suffix hmid).length_le
    have hle' := (munch_suffix hrest).length_le
    simp only [reads, Bool.or_eq_true] at h
    rcases h with hfirst | hsecond
    · have hlt := ihFirst hfirst _ _ hmid
      omega
    · have hlt := ihSecond hsecond _ _ hrest
      omega
  | choice mark first second ihFirst ihSecond =>
    intro text rest hmunch
    simp only [reads, Bool.and_eq_true] at h
    rcases Option.or_eq_some_iff.mp hmunch with hfirst | ⟨-, hsecond⟩
    · exact ihFirst h.1 _ _ hfirst
    · exact ihSecond h.2 _ _ hsecond
  | plus mark greedy body ih =>
    intro text rest hmunch
    obtain ⟨mid, hmid, rfl⟩ := Option.map_eq_some_iff.mp hmunch
    have hlt := ih h _ _ hmid
    have hloop : munchAll body.munch mid.length mid <:+ mid :=
      munchAll_suffix (fun _ _ hmore => munch_suffix hmore) _ _
    exact Nat.lt_of_le_of_lt hloop.length_le hlt
  | _ => cases h

theorem munch_isSome {n : Node} (h : n.total = true) (text : List Char) :
    ∃ rest, n.munch text = some rest := by
  induction n generalizing text with
  | empty => exact ⟨text, rfl⟩
  | star => exact ⟨_, rfl⟩
  | seq first second ihFirst ihSecond =>
    simp only [total, Bool.and_eq_true] at h
    obtain ⟨mid, hmid⟩ := ihFirst h.1 text
    obtain ⟨rest, hrest⟩ := ihSecond h.2 mid
    exact ⟨rest, by rw [munch, hmid]; exact hrest⟩
  | choice mark first second ihFirst ihSecond =>
    simp only [total, Bool.or_eq_true] at h
    cases hfirst : first.munch text with
    | some rest => exact ⟨rest, by rw [munch, hfirst, Option.some_or]⟩
    | none =>
      rcases h with h | h
      · obtain ⟨rest, hrest⟩ := ihFirst h text
        rw [hfirst] at hrest
        cases hrest
      · obtain ⟨rest, hrest⟩ := ihSecond h text
        exact ⟨rest, by rw [munch, hfirst, Option.none_or, hrest]⟩
  | _ => cases h

end Node

end Descent.Regex
