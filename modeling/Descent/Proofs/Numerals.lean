import Descent.Decimal.Binary64
import Descent.Proofs.Lexemes

/-!
Decimal numerals: runs of digits, and fractions behind them. A pattern for digits munches a whole
run of them, and a pattern for an optional fraction a point with digits behind it. Whatever such
patterns match can be read as a number (`readFloat?_isSome`).
-/
namespace Descent

open Text (Avoids)

theorem Text.CharSet.contains_single (c : Char) : (single c).contains = (· == c) := by
  funext d
  rw [single, contains_interval, Bool.eq_iff_iff, beq_iff_eq, ← Char.toNat_inj]
  simp only [Bool.and_eq_true, decide_eq_true_eq]
  omega

namespace Text.CharSet

def ofChars (cs : List Char) : CharSet := unionAll (cs.map single)

theorem contains_ofChars (cs : List Char) (c : Char) :
    (ofChars cs).contains c = cs.contains c := by
  induction cs with
  | nil => rfl
  | cons d cs ih =>
    have hcons : ofChars (d :: cs) = union (single d) (ofChars cs) := rfl
    rw [hcons, contains_union, contains_single, ih, List.contains_cons]

end Text.CharSet

namespace Regex.Node

open Text (CharSet)

theorem munchAll_oneOf (set : CharSet) {n : Nat} {text : List Char} (h : text.length ≤ n) :
    munchAll (oneOf set).munch n text = text.dropWhile set.contains := by
  induction n generalizing text with
  | zero =>
    rw [List.length_eq_zero_iff.mp (Nat.le_zero.mp h)]
    rfl
  | succ n ih =>
    cases text with
    | nil => exact munchAll_of_none rfl _
    | cons c cs =>
      by_cases hc : set.contains c = true
      · have hread : (oneOf set).munch (c :: cs) = some cs := if_pos hc
        rw [munchAll_of_some hread, ih (Nat.le_of_succ_le_succ h), List.dropWhile_cons_of_pos hc]
      · have hread : (oneOf set).munch (c :: cs) = none := if_neg hc
        rw [munchAll_of_none hread, List.dropWhile_cons_of_neg hc]

theorem munch_star_oneOf (mark : Mark) (greedy : Bool) (set : CharSet) (text : List Char) :
    (star mark greedy (oneOf set)).munch text = some (text.dropWhile set.contains) :=
  congrArg some (munchAll_oneOf set (Nat.le_refl _))

theorem munch_single_eq_some_iff (c : Char) (text rest : List Char) :
    (oneOf (.single c)).munch text = some rest ↔ text = c :: rest := by
  rw [munch_oneOf_eq_some_iff, Text.CharSet.contains_single]
  constructor
  · intro h
    obtain ⟨d, hd, rfl⟩ := h
    rw [beq_iff_eq.mp hd]
  · rintro rfl
    exact ⟨c, beq_self_eq_true c, rfl⟩

theorem munch_oneOf_eq_none {set : CharSet} {text : List Char} (h : Avoids set.contains text) :
    (oneOf set).munch text = none := by
  cases text with
  | nil => rfl
  | cons c cs => exact if_neg (by rw [h c rfl]; exact Bool.false_ne_true)

/-- A loop with a round at least reads a whole run. -/
theorem munch_plus_oneOf_eq_some_iff (mark : Mark) (greedy : Bool) (set : CharSet)
    (text rest : List Char) :
    (plus mark greedy (oneOf set)).munch text = some rest ↔
      ∃ front, front ≠ [] ∧ (∀ c ∈ front, set.contains c = true) ∧ text = front ++ rest ∧
        Avoids set.contains rest := by
  have hmunch : (plus mark greedy (oneOf set)).munch text =
      ((oneOf set).munch text).map (List.dropWhile set.contains) := by
    change ((oneOf set).munch text).map _ = _
    congr 1
    funext mid
    exact munchAll_oneOf set (Nat.le_refl _)
  rw [hmunch, Option.map_eq_some_iff]
  constructor
  · intro h
    obtain ⟨mid, hmid, rfl⟩ := h
    obtain ⟨c, hc, rfl⟩ := (munch_oneOf_eq_some_iff set text mid).mp hmid
    refine ⟨c :: mid.takeWhile set.contains, List.cons_ne_nil _ _, ?_, ?_,
      Text.avoids_dropWhile _ _⟩
    · intro d hd
      rcases List.mem_cons.mp hd with rfl | hmem
      · exact hc
      · exact List.all_eq_true.mp List.all_takeWhile d hmem
    · rw [List.cons_append, List.takeWhile_append_dropWhile]
  · intro h
    obtain ⟨front, hne, hall, rfl, havoids⟩ := h
    obtain ⟨c, cs, rfl⟩ := List.exists_cons_of_ne_nil hne
    refine ⟨cs ++ rest, ?_, ?_⟩
    · exact (munch_oneOf_eq_some_iff set _ _).mpr ⟨c, hall c List.mem_cons_self, rfl⟩
    · exact Text.dropWhile_append (fun d hd => hall d (List.mem_cons_of_mem _ hd)) havoids

/-- A character that may be left out is read if it stands there. -/
theorem munch_optional (mark : Mark) {set : CharSet} (sign : Option Char)
    (hsign : ∀ c ∈ sign, set.contains c = true) {rest : List Char}
    (h : Avoids set.contains rest) :
    (choice mark (oneOf set) empty).munch (sign.toList ++ rest) = some rest := by
  cases sign with
  | none =>
    change ((oneOf set).munch rest).or (some rest) = some rest
    rw [munch_oneOf_eq_none h]
    rfl
  | some c =>
    have hread : (oneOf set).munch (c :: rest) = some rest := if_pos (hsign c rfl)
    change ((oneOf set).munch (c :: rest)).or _ = some rest
    rw [hread]
    rfl

theorem optional_of_munch {mark : Mark} {set : CharSet} {text rest : List Char}
    (h : (choice mark (oneOf set) empty).munch text = some rest) :
    ∃ sign : Option Char, (∀ c ∈ sign, set.contains c = true) ∧ text = sign.toList ++ rest := by
  rcases Option.or_eq_some_iff.mp h with hsome | ⟨-, hnone⟩
  · obtain ⟨c, hc, rfl⟩ := (munch_oneOf_eq_some_iff _ _ _).mp hsome
    refine ⟨some c, fun d hd => ?_, rfl⟩
    cases hd
    exact hc
  · cases hnone
    exact ⟨none, (fun c hc => by cases hc), rfl⟩

theorem munch_plus_oneOf_eq_none (mark : Mark) (greedy : Bool) {set : CharSet}
    {text : List Char} (h : Avoids set.contains text) :
    (plus mark greedy (oneOf set)).munch text = none := by
  rw [munch, munch_oneOf_eq_none h, Option.map_none]

end Regex.Node

namespace Decimal

structure DigitRun where
  text : List Char
  nonempty : text ≠ []
  all : ∀ c ∈ text, c.isDigit = true

/-- The text of a fraction, if there is one: a point and digits. -/
def fractionText : Option DigitRun → List Char
  | none => []
  | some digits => '.' :: digits.text

theorem asciiDigits_contains : Regex.NamedSet.asciiDigits.contains = Char.isDigit := by
  funext c
  rw [Regex.NamedSet.asciiDigits, Text.CharSet.contains_interval]
  rfl

theorem DigitRun.span_append (d : DigitRun) {rest : List Char} (h : Avoids Char.isDigit rest) :
    (d.text ++ rest).takeWhile Char.isDigit = d.text ∧
      (d.text ++ rest).dropWhile Char.isDigit = rest := by
  have hdrop := Text.dropWhile_append d.all h
  refine ⟨?_, hdrop⟩
  have hwhole : (d.text ++ rest).takeWhile Char.isDigit ++
      (d.text ++ rest).dropWhile Char.isDigit = d.text ++ rest := List.takeWhile_append_dropWhile
  rw [hdrop] at hwhole
  exact List.append_cancel_right hwhole

theorem DigitRun.avoids (d : DigitRun) {p : Char → Bool} (h : ∀ c, p c = true → c.isDigit = false)
    (rest : List Char) : Avoids p (d.text ++ rest) := by
  obtain ⟨c, cs, hdigits⟩ := List.exists_cons_of_ne_nil d.nonempty
  have hc := d.all c (by rw [hdigits]; exact List.mem_cons_self)
  rw [hdigits]
  refine Text.avoids_cons (Bool.eq_false_iff.mpr fun hp => ?_) _
  rw [h c hp] at hc
  cases hc

/-- What stands behind the digits and the fraction of a numeral: nothing, or a power of ten. -/
def PowerMark (text : List Char) : Prop :=
  text = [] ∨ ∃ e rest, text = e :: rest ∧ (e = 'e' ∨ e = 'E')

theorem PowerMark.avoids {text : List Char} (h : PowerMark text) :
    Avoids Char.isDigit text ∧ Avoids (· == '.') text := by
  rcases h with rfl | ⟨e, rest, rfl, rfl | rfl⟩
  · exact ⟨Text.avoids_nil _, Text.avoids_nil _⟩
  · exact ⟨Text.avoids_cons rfl _, Text.avoids_cons rfl _⟩
  · exact ⟨Text.avoids_cons rfl _, Text.avoids_cons rfl _⟩

theorem avoids_fraction (fraction : Option DigitRun) {rest : List Char}
    (h : Avoids Char.isDigit rest) : Avoids Char.isDigit (fractionText fraction ++ rest) := by
  cases fraction with
  | none => exact h
  | some d => exact Text.avoids_cons rfl _

theorem digitsAfter_fraction (fraction : Option DigitRun) {power : List Char}
    (h : PowerMark power) : (digitsAfter '.' (fractionText fraction ++ power)).2 = power := by
  obtain ⟨hdigit, hpoint⟩ := h.avoids
  cases fraction with
  | some d =>
    change (d.text ++ power).dropWhile Char.isDigit = power
    exact (d.span_append hdigit).2
  | none =>
    cases power with
    | nil => rfl
    | cons c cs =>
      have hc : c ≠ '.' := beq_eq_false_iff_ne.mp (hpoint c rfl)
      simp only [fractionText, List.nil_append, digitsAfter, hc, if_false]

theorem readFloat?_of_unsigned {text : List Char} (whole : DigitRun) (fraction : Option DigitRun)
    {power : List Char} (h : PowerMark power)
    (htext : (if text.head? = some '-' then text.tail else text) =
      whole.text ++ (fractionText fraction ++ power)) : (readFloat? text).isSome = true := by
  obtain ⟨htake, hdrop⟩ := whole.span_append (avoids_fraction fraction h.avoids.1)
  have hbehind := digitsAfter_fraction fraction h
  have hwhole : whole.text.isEmpty = false := List.isEmpty_eq_false_iff.mpr whole.nonempty
  unfold readFloat?
  simp only [htext, htake, hdrop, hbehind, hwhole, if_false, Bool.false_eq_true]
  rcases h with rfl | ⟨e, rest, rfl, rfl | rfl⟩
  · rfl
  · rfl
  · rfl

theorem readFloat?_isSome (negative : Bool) (whole : DigitRun) (fraction : Option DigitRun)
    {power : List Char} (h : PowerMark power) :
    (readFloat? ((if negative then ['-'] else []) ++ (whole.text ++
      (fractionText fraction ++ power)))).isSome = true := by
  refine readFloat?_of_unsigned whole fraction h ?_
  cases negative with
  | true => rfl
  | false =>
    obtain ⟨c, cs, hwhole⟩ := List.exists_cons_of_ne_nil whole.nonempty
    have hc : c ≠ '-' := by
      rintro rfl
      have hdigit := whole.all '-' (by rw [hwhole]; exact List.mem_cons_self)
      exact absurd hdigit (by decide)
    simp [hwhole, hc]

section Patterns

open Regex Node

def digitsNode (mark : Mark) : Node := .plus mark true (.oneOf NamedSet.asciiDigits)

/-- A point with digits behind it, or nothing. -/
def fractionNode (mark digitsMark : Mark) : Node :=
  .choice mark (.seq (.oneOf (Text.CharSet.single '.')) (digitsNode digitsMark)) .empty

theorem munch_digits_iff (mark : Mark) (text rest : List Char) :
    (digitsNode mark).munch text = some rest ↔
      ∃ d : DigitRun, text = d.text ++ rest ∧ Avoids Char.isDigit rest := by
  unfold digitsNode
  rw [munch_plus_oneOf_eq_some_iff, asciiDigits_contains]
  constructor
  · intro h
    obtain ⟨front, hne, hall, htext, havoids⟩ := h
    exact ⟨⟨front, hne, hall⟩, htext, havoids⟩
  · intro h
    obtain ⟨d, htext, havoids⟩ := h
    exact ⟨d.text, d.nonempty, d.all, htext, havoids⟩

theorem munch_digits_eq_none (mark : Mark) {text : List Char} (h : Avoids Char.isDigit text) :
    (digitsNode mark).munch text = none := by
  refine munch_plus_oneOf_eq_none mark true ?_
  rw [asciiDigits_contains]
  exact h

theorem munch_point (mark digitsMark : Mark) (d : DigitRun) {rest : List Char}
    (hdigit : Avoids Char.isDigit rest) :
    (fractionNode mark digitsMark).munch (fractionText (some d) ++ rest) = some rest := by
  have hread := (munch_digits_iff digitsMark (d.text ++ rest) rest).mpr ⟨d, rfl, hdigit⟩
  change (((digitsNode digitsMark).munch (d.text ++ rest))).or _ = some rest
  rw [hread]
  rfl

/-- A fraction is read as a whole, or nothing where none begins. -/
theorem munch_fraction (mark digitsMark : Mark) (fraction : Option DigitRun) {rest : List Char}
    (hdigit : Avoids Char.isDigit rest) (hpoint : Avoids (· == '.') rest) :
    (fractionNode mark digitsMark).munch (fractionText fraction ++ rest) = some rest := by
  cases fraction with
  | none =>
    have hnone : (oneOf (Text.CharSet.single '.')).munch rest = none := by
      refine munch_oneOf_eq_none ?_
      rw [Text.CharSet.contains_single]
      exact hpoint
    change (((oneOf _).munch rest).bind _).or (some rest) = some rest
    rw [hnone]
    rfl
  | some d => exact munch_point mark digitsMark d hdigit

theorem fraction_of_munch {mark digitsMark : Mark} {text rest : List Char}
    (h : (fractionNode mark digitsMark).munch text = some rest) :
    ∃ fraction, text = fractionText fraction ++ rest := by
  rcases Option.or_eq_some_iff.mp h with hsome | ⟨-, hnone⟩
  · obtain ⟨mid, hpoint, hdigits⟩ := Option.bind_eq_some_iff.mp hsome
    obtain ⟨c, hc, rfl⟩ := (munch_oneOf_eq_some_iff _ _ _).mp hpoint
    obtain ⟨d, rfl, -⟩ := (munch_digits_iff digitsMark mid rest).mp hdigits
    rw [Text.CharSet.contains_single, beq_iff_eq] at hc
    exact ⟨some d, by rw [hc]; rfl⟩
  · cases hnone
    exact ⟨none, rfl⟩

end Patterns

end Decimal

end Descent
