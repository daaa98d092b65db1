import Descent.Proofs.Calls
import Descent.Proofs.Commitment

/-!
What tokens take, by the texts. A literal takes itself, a set of characters takes all it can, and
a pattern that munches takes what its node munches. Loops over a set go on as long as they can;
how far that is depends on the first character that the set does not have.
-/
namespace Descent

namespace Text

/-- The text does not begin with a character of the kind. -/
def Avoids (p : Char → Bool) (text : List Char) : Prop := ∀ c ∈ text.head?, p c = false

theorem avoids_nil (p : Char → Bool) : Avoids p [] := by
  intro c hc
  cases hc

theorem avoids_cons {p : Char → Bool} {c : Char} (h : p c = false) (cs : List Char) :
    Avoids p (c :: cs) := by
  intro d hd
  cases hd
  exact h

theorem avoids_dropWhile (p : Char → Bool) (text : List Char) : Avoids p (text.dropWhile p) := by
  intro c hc
  have hnot := List.head?_dropWhile_not p text
  rw [Option.mem_def.mp hc] at hnot
  exact hnot

theorem dropWhile_of_avoids {p : Char → Bool} {text : List Char} (h : Avoids p text) :
    text.dropWhile p = text := by
  cases text with
  | nil => rfl
  | cons c cs => exact List.dropWhile_cons_of_neg (by rw [h c rfl]; exact Bool.false_ne_true)

theorem dropWhile_append {p : Char → Bool} {front rest : List Char}
    (hfront : ∀ c ∈ front, p c = true) (hrest : Avoids p rest) :
    (front ++ rest).dropWhile p = rest := by
  rw [List.dropWhile_append_of_pos hfront, dropWhile_of_avoids hrest]

/-- What holds of each of a few characters. -/
theorem forall_of_all {p : Char → Prop} [DecidablePred p] {cs : List Char}
    (h : (cs.all fun c => decide (p c)) = true) : ∀ c ∈ cs, p c :=
  fun c hc => of_decide_eq_true (List.all_eq_true.mp h c hc)

theorem length_le_flatMap {α : Type} {unit : α → List Char} (h : ∀ a, unit a ≠ [])
    (units : List α) : units.length ≤ (units.flatMap unit).length := by
  induction units with
  | nil => exact Nat.le_refl 0
  | cons a units ih =>
    have hpos : 0 < (unit a).length := List.length_pos_iff.mpr (h a)
    rw [List.flatMap_cons, List.length_append, List.length_cons]
    omega

end Text

namespace Token

theorem takes_unique {t : Token} {text rest rest' : List Char} {value value' : t.Yield}
    (h : t.Takes text value rest) (h' : t.Takes text value' rest') :
    value = value' ∧ rest = rest' := by
  obtain ⟨front, htext, hread⟩ := h
  obtain ⟨front', htext', hread'⟩ := h'
  rw [hread, Except.ok.injEq, Prod.mk.injEq] at hread'
  obtain ⟨hwidth, hvalue⟩ := hread'
  have hcut := (Text.split_eq_some_iff (Text.width front) _ _ _).mpr ⟨htext, rfl⟩
  have hcut' := (Text.split_eq_some_iff (Text.width front) _ _ _).mpr ⟨htext', hwidth.symm⟩
  rw [hcut, Option.some.injEq, Prod.mk.injEq] at hcut'
  exact ⟨hvalue, hcut'.2⟩

theorem takes_literal (text : String) (rest : List Char) :
    (literal text).Takes (text.toList ++ rest) text rest := by
  refine ⟨text.toList, rfl, ?_⟩
  have hlong : Text.atLeast (Text.width text.toList) (text.toList ++ rest) = true := by
    rw [Text.atLeast_eq_true_iff, Text.width_append]
    exact Nat.le_add_right _ _
  have hprefix : text.toList.isPrefixOf (text.toList ++ rest) = true := by simp
  simp only [reading, hlong, hprefix, Bool.not_true, if_false, Bool.false_eq_true]

theorem eq_of_takes_literal {text value : String} {before rest : List Char}
    (h : (literal text).Takes before value rest) :
    before = text.toList ++ rest ∧ value = text := by
  obtain ⟨front, hbefore, hread⟩ := h
  have hread' := hread
  simp only [reading] at hread'
  split at hread'
  · cases hread'
  · split at hread'
    · cases hread'
    · next hprefix =>
      obtain ⟨back, rfl⟩ : text.toList <+: before := by simpa using hprefix
      obtain ⟨rfl, rfl⟩ := takes_unique ⟨front, hbefore, hread⟩ (takes_literal text back)
      exact ⟨rfl, rfl⟩

theorem refuses_literal {text : String} {before : List Char}
    (h : text.toList.isPrefixOf before = false) : (literal text).Refuses before := by
  unfold Refuses
  simp only [reading, h]
  split
  · exact ⟨_, rfl⟩
  · exact ⟨_, rfl⟩

theorem takes_anyOf (characters : String) (text : List Char) :
    (anyOf characters).Takes text () (text.dropWhile (characters.toList.contains ·)) :=
  ⟨text.takeWhile (characters.toList.contains ·), List.takeWhile_append_dropWhile.symm, rfl⟩

/-- The token passes all characters of a kind, and cannot fail. -/
def Passes (t : Token) (p : Char → Bool) : Prop :=
  ∀ text, ∃ value, t.Takes text value (text.dropWhile p)

theorem passes_anyOf (characters : String) :
    (anyOf characters).Passes (characters.toList.contains ·) :=
  fun text => ⟨(), takes_anyOf characters text⟩

section Patterns

variable {p : Pattern} {n : Regex.Node}

theorem reading_pattern (h : p.Munches n) (text : List Char) :
    (pattern p).reading text =
      match n.munch text with
      | none => .error (.patternMismatch p.source)
      | some rest =>
        .ok (Text.width (text.take (text.length - rest.length)),
          String.ofList (text.take (text.length - rest.length))) := by
  simp only [reading, h.find?_eq]
  cases n.munch text <;> rfl

theorem takes_pattern (h : p.Munches n) {front rest : List Char}
    (hmunch : n.munch (front ++ rest) = some rest) :
    (pattern p).Takes (front ++ rest) (String.ofList front) rest := by
  refine ⟨front, rfl, ?_⟩
  have hlength : (front ++ rest).length - rest.length = front.length := by
    rw [List.length_append]
    omega
  rw [reading_pattern h, hmunch]
  simp only [hlength, List.take_left]

theorem refuses_pattern (h : p.Munches n) {text : List Char} (hmunch : n.munch text = none) :
    (pattern p).Refuses text :=
  ⟨.patternMismatch p.source, by rw [reading_pattern h, hmunch]⟩

theorem munch_of_takes (h : p.Munches n) {text rest : List Char} {value : String}
    (htakes : (pattern p).Takes text value rest) :
    n.munch text = some rest ∧ ∃ front, text = front ++ rest ∧ value = String.ofList front := by
  cases hmunch : n.munch text with
  | none =>
    obtain ⟨front, -, hread⟩ := htakes
    rw [reading_pattern h, hmunch] at hread
    cases hread
  | some rest' =>
    obtain ⟨front, rfl⟩ := Regex.Node.munch_suffix hmunch
    obtain ⟨rfl, rfl⟩ := takes_unique htakes (takes_pattern h hmunch)
    exact ⟨rfl, front, rfl, rfl⟩

end Patterns

end Token

namespace Grammar

open Text (Avoids)

variable {g : Grammar} {room : Nat} {s : Scanner} {t : Token} {p : Char → Bool}

section Literals

variable {word : String} {rest : List Char}

theorem call_literal {height : Nat} (hs : s.Allows room (height + 1))
    (hrest : s.rest = word.toList ++ rest) (mode : Mode) :
    ∃ u, s.call mode (g.kindOf (.token (.literal word)))
        (g.run room (.token (.literal word))) [] = .finished (.ok word) u ∧
      s.Onward u ∧ u.rest = mode.textLeft s.rest rest := by
  have htakes : (Token.literal word).Takes s.rest word rest := by
    rw [hrest]
    exact Token.takes_literal word rest
  exact call_takes hs [] htakes mode

theorem call_literal_refused {height : Nat} (hs : s.Allows room height)
    (h : word.toList.isPrefixOf s.rest = false) (mode : Mode) :
    ∃ failure u, s.call mode (g.kindOf (.token (.literal word)))
        (g.run room (.token (.literal word))) [] = .finished (.error failure) u ∧
      s.Onward u ∧ u.rest = s.rest :=
  call_refused hs [] (Token.refuses_literal h) mode

theorem literal_of_call (hs : s.Fits room) {mode : Mode} {value : String} {u : Scanner}
    (h : s.call mode (g.kindOf (.token (.literal word)))
      (g.run room (.token (.literal word))) [] = .finished (.ok value) u) :
    s.Onward u ∧ s.depth + 1 ≤ s.limits.maxDepth ∧ ∃ rest, s.rest = word.toList ++ rest ∧
      u.rest = mode.textLeft s.rest rest := by
  obtain ⟨honward, hdepth, rest, htakes, hrest⟩ := call_token_ok hs h
  obtain ⟨htext, -⟩ := Token.eq_of_takes_literal htakes
  exact ⟨honward, hdepth, rest, htext, hrest⟩

/-! What a script read that came to an end, by its first operation. -/

variable {α : Type} {value : α} {end' : Except Failure α} {u : Scanner}

theorem literal_of_run (hs : s.Fits room) {f : String → Script g.Yield α}
    (h : (Script.parse (.token (.literal word)) >>= f).run g.kindOf (g.run room) s =
      .finished (.ok value) u) :
    ∃ read v, s.Onward v ∧ s.depth + 1 ≤ s.limits.maxDepth ∧ s.rest = word.toList ++ v.rest ∧
      (f read).run g.kindOf (g.run room) v = .finished (.ok value) u := by
  obtain ⟨read, v, hcall, hrun⟩ := Script.parse_of_run h
  obtain ⟨honward, hdepth, rest, htext, hv⟩ := literal_of_call hs hcall
  have hrest : v.rest = rest := hv
  exact ⟨read, v, honward, hdepth, by rw [htext, hrest], hrun⟩

theorem succeeds_of_run (hs : s.Fits room) {f : Bool → Script g.Yield α}
    (h : (Script.succeeds (.token (.literal word)) >>= f).run g.kindOf (g.run room) s =
      .finished end' u) :
    ∃ v, s.Onward v ∧
      ((s.depth + 1 ≤ s.limits.maxDepth ∧ s.rest = word.toList ++ v.rest ∧
          (f true).run g.kindOf (g.run room) v = .finished end' u) ∨
        (v.rest = s.rest ∧
          (f false).run g.kindOf (g.run room) v = .finished end' u)) := by
  obtain ⟨answer, v, hcall, hrun⟩ := Script.call_of_run h
  cases answer with
  | ok read =>
    obtain ⟨honward, hdepth, rest, htext, hv⟩ := literal_of_call hs hcall
    have hrest : v.rest = rest := hv
    exact ⟨v, honward, Or.inl ⟨hdepth, by rw [htext, hrest], hrun⟩⟩
  | error failure =>
    obtain ⟨honward, hv⟩ := call_failed hs hcall
    exact ⟨v, honward, Or.inr ⟨hv, hrun⟩⟩

theorem sees_of_run (hs : s.Fits room) {f : Bool → Script g.Yield α}
    (h : (Script.sees (.token (.literal word)) >>= f).run g.kindOf (g.run room) s =
      .finished end' u) :
    ∃ seen v, s.Onward v ∧ v.rest = s.rest ∧
      (f seen).run g.kindOf (g.run room) v = .finished end' u := by
  obtain ⟨answer, v, hcall, hrun⟩ := Script.call_of_run h
  cases answer with
  | ok read =>
    obtain ⟨honward, -, _, -, hv⟩ := literal_of_call hs hcall
    exact ⟨true, v, honward, hv, hrun⟩
  | error failure =>
    obtain ⟨honward, hv⟩ := call_failed hs hcall
    exact ⟨false, v, honward, hv, hrun⟩

end Literals

/-- Skipping passes characters of a kind, in front of what is none of it. -/
theorem skip_passes {height : Nat} (ht : t.Passes p) (hs : s.Allows room (height + 1))
    {front rest : List Char} (hrest : s.rest = front ++ rest) (hfront : ∀ c ∈ front, p c = true)
    (h : Avoids p rest) :
    ∃ value u, s.call .skip (g.kindOf (.token t)) (g.run room (.token t)) [] =
      .finished (.ok value) u ∧ s.Onward u ∧ u.rest = rest := by
  obtain ⟨value, htakes⟩ := ht s.rest
  have hdrop : s.rest.dropWhile p = rest := by rw [hrest, Text.dropWhile_append hfront h]
  rw [hdrop] at htakes
  exact ⟨value, call_takes hs [] htakes .skip⟩

/-- However skipping ends, what was skipped is of the kind. -/
theorem skip_of_run {α : Type} {end' : Except Failure α} {u : Scanner} (ht : t.Passes p)
    (hs : s.Fits room) {f : Unit → Script g.Yield α}
    (h : (Script.skip (.token t) >>= f).run g.kindOf (g.run room) s = .finished end' u) :
    ∃ front v, (∀ c ∈ front, p c = true) ∧ s.rest = front ++ v.rest ∧ s.Onward v ∧
      (f ()).run g.kindOf (g.run room) v = .finished end' u := by
  obtain ⟨answer, v, hcall, hrun⟩ := Script.call_of_run h
  cases answer with
  | ok skipped =>
    obtain ⟨honward, -, rest, htakes, hrest⟩ := call_token_ok hs hcall
    obtain ⟨value', htakes'⟩ := ht s.rest
    obtain ⟨-, rfl⟩ := Token.takes_unique htakes htakes'
    have hv : v.rest = s.rest.dropWhile p := hrest
    refine ⟨s.rest.takeWhile p, v, List.all_eq_true.mp List.all_takeWhile, ?_, honward, hrun⟩
    rw [hv, List.takeWhile_append_dropWhile]
  | error failure =>
    obtain ⟨honward, hrest⟩ := call_failed hs hcall
    exact ⟨[], v, fun c hc => (List.not_mem_nil hc).elim, hrest.symm, honward, hrun⟩

end Grammar

end Descent
