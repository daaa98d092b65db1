import Descent.Proofs.Viability
import Mathlib.Data.Nat.ModEq

/-!
What failures report. A failure is `Told` if it is one of two things: a message that stands alone,
or the message of a rule that has tried several alternatives, with the failure of the last one as
its cause. Whatever else was tried and given up on the way is not part of the report. The last
alternative is a literal that the text refuses where the failure stands, as it refuses the others;
this failure has no cause itself, so that a report has two links at most. Which of the two it is
shows in the words that the message begins with.

The bound is no cause of this kind. Rules that call each other in rounds come to it only where a
round is full: `Aligned` counts the levels that are left, up to whole rounds.
-/
namespace Descent

namespace Text

/-- The text begins with one of the words. -/
def Begins (words : List String) (text : String) : Prop :=
  ∃ word ∈ words, ∃ rest, text = word ++ rest

/-- No word of the one list and the other begin alike. -/
abbrev Apart (words words' : List String) : Prop :=
  ∀ word ∈ words, ∀ word' ∈ words',
    ¬ (word.toList <+: word'.toList ∨ word'.toList <+: word.toList)

namespace Begins

variable {words words' : List String} {text : String}

theorem of_mem (h : text ∈ words) : Begins words text := ⟨text, h, "", String.append_empty.symm⟩

theorem mono (h : Begins words text) (hsubset : ∀ word ∈ words, word ∈ words') :
    Begins words' text := by
  obtain ⟨word, hword, rest, htext⟩ := h
  exact ⟨word, hsubset word hword, rest, htext⟩

/-- Of two words that a text begins with, one begins with the other. -/
theorem not_apart (h : Begins words text) (h' : Begins words' text) : ¬ Apart words words' := by
  obtain ⟨word, hword, rest, rfl⟩ := h
  obtain ⟨word', hword', rest', htext⟩ := h'
  have hprefix : word.toList <+: word.toList ++ rest.toList := List.prefix_append _ _
  have hprefix' : word'.toList <+: word.toList ++ rest.toList := by
    rw [← String.toList_append, htext, String.toList_append]
    exact List.prefix_append _ _
  exact fun hapart =>
    hapart word hword word' hword' (List.prefix_or_prefix_of_prefix hprefix hprefix')

end Begins

end Text

/-- What the reasons of the scanner begin with. -/
def Reason.words : List String :=
  ["unexpected EOF while matching literal ", "literal ", "pattern ", "expected end of stream",
    "recursion limit exceeded: depth "]

theorem Reason.message_begins (reason : Reason) : Text.Begins words reason.message := by
  cases reason with
  | unexpectedEnd word => exact ⟨_, .head _, Text.quoted word, rfl⟩
  | literalMismatch word =>
    exact ⟨"literal ", by decide, Text.quoted word ++ " did not match", String.append_assoc⟩
  | patternMismatch pattern =>
    exact ⟨"pattern ", by decide, Text.quoted pattern ++ " did not match", String.append_assoc⟩
  | notConsumed => exact .of_mem (by decide)
  | tooDeep depth limit =>
    refine ⟨"recursion limit exceeded: depth ", by decide,
      toString depth ++ (" > limit " ++ toString limit), ?_⟩
    change "recursion limit exceeded: depth " ++ toString depth ++ " > limit " ++
      toString limit = _
    rw [String.append_assoc, String.append_assoc]

/-- Things that are tried one after another, a literal last, and what is said where all of them
are missed. -/
structure Attempt where
  message : String
  others : List Token
  last : String

namespace Scanner

/-- So many levels are left below the bound, up to whole rounds of the rules that call each
other. -/
def Aligned (period levels : Nat) (s : Scanner) : Prop :=
  s.depth + levels ≡ s.limits.maxDepth [MOD period]

namespace Aligned

variable {period levels : Nat} {s t : Scanner} {args : List Argument}

theorem onward (h : s.Aligned period levels) (honward : s.Onward t) :
    t.Aligned period levels := by
  unfold Aligned
  rw [honward.frame.depth, honward.frame.limits]
  exact h

theorem entered (h : s.Aligned period (levels + 1))
    (hdown : (s.entered args).depth = s.depth + 1) : (s.entered args).Aligned period levels := by
  unfold Aligned
  rw [hdown, Nat.add_right_comm]
  exact h

theorem around (h : s.Aligned period levels) : s.Aligned period (levels + period) := by
  unfold Aligned
  rw [← Nat.add_assoc]
  exact (Nat.add_modEq_left_iff.mpr (dvd_refl period)).trans h

/-- In the middle of a round, the bound is not reached. -/
theorem admits (h : s.Aligned period levels) (hwithin : s.depth ≤ s.limits.maxDepth)
    (hpos : 0 < levels) (hlt : levels < period) : s.depth + 1 ≤ s.limits.maxDepth := by
  refine Nat.lt_of_le_of_ne hwithin fun hbound => ?_
  have hround : s.depth + levels ≡ s.depth + 0 [MOD period] := by
    rw [Nat.add_zero, hbound]
    rw [Aligned, hbound] at h
    exact h
  have hdvd : period ∣ levels := Nat.modEq_zero_iff_dvd.mp (hround.add_left_cancel' s.depth)
  have hle := Nat.le_of_dvd hpos hdvd
  omega

end Aligned

end Scanner

/-- Where the bound admits a call, a token that is missed refuses the text. -/
theorem Token.Missed.reading {t : Token} {s : Scanner} {reason : Reason} (h : t.Missed s reason)
    (hadmits : s.depth + 1 ≤ s.limits.maxDepth) : t.reading s.rest = .error reason := by
  rcases h with ⟨hbound, -⟩ | ⟨-, hread⟩
  · omega
  · exact hread

/-- A failure that stands alone, with a message that begins with one of some words, or that is
caused by the last of several attempts, all of which the text refuses where it stands. -/
inductive Failure.Told (attempts : List Attempt) (words : List String) (s : Scanner) :
    Failure → Prop
  | alone (location : Position) {message : String} (h : Text.Begins words message) :
    Told attempts words s ⟨location, message, none⟩
  | attempted {attempt : Attempt} {front back : List Char} {reason : Reason}
    (hmem : attempt ∈ attempts) (hrest : s.rest = front ++ back)
    (hothers : ∀ t ∈ attempt.others, t.Refuses back)
    (hlast : (Token.literal attempt.last).reading back = .error reason) :
    Told attempts words s ⟨s.location.advance front, attempt.message,
      some (.ofReason (s.location.advance front) reason)⟩

namespace Failure.Told

variable {attempts : List Attempt} {words words' : List String} {s t : Scanner} {f : Failure}

theorem behind (h : f.Told attempts words t) (honward : s.Onward t) :
    f.Told attempts words s := by
  cases h with
  | alone location h => exact .alone location h
  | attempted hmem hrest hothers hlast =>
    obtain ⟨passed, hpassed, hplace⟩ := honward.passed
    rw [hrest, ← List.append_assoc] at hpassed
    rw [hplace, ← Position.advance_append]
    exact .attempted hmem hpassed hothers hlast

theorem of_entered {args : List Argument} (h : f.Told attempts words (s.entered args)) :
    f.Told attempts words s := by
  cases h with
  | alone location h => exact .alone location h
  | attempted hmem hrest hothers hlast => exact .attempted hmem hrest hothers hlast

/-- A rule that gives up where all that it tries is missed, with a level left below it. -/
theorem of_missed {attempt : Attempt} (hmem : attempt ∈ attempts)
    (hadmits : s.depth + 1 ≤ s.limits.maxDepth)
    (hothers : ∀ t ∈ attempt.others, ∃ reason, t.Missed s reason) {reason : Reason}
    (hlast : (Token.literal attempt.last).Missed s reason) :
    Told attempts words s ⟨s.location, attempt.message, some (.ofReason s.location reason)⟩ := by
  have hrest : s.rest = [] ++ s.rest := rfl
  refine .attempted hmem hrest (fun t ht => ?_) (hlast.reading hadmits)
  obtain ⟨reason', hmissed⟩ := hothers t ht
  exact ⟨reason', hmissed.reading hadmits⟩

/-- A token that is missed where it must stand is reported alone. -/
theorem of_reason (hwords : ∀ word ∈ Reason.words, word ∈ words) (location : Position)
    (reason : Reason) : Told attempts words s (.ofReason location reason) :=
  .alone location (reason.message_begins.mono hwords)

theorem mono (h : f.Told attempts words s) (hsubset : ∀ word ∈ words, word ∈ words') :
    f.Told attempts words' s := by
  cases h with
  | alone location h => exact .alone location (h.mono hsubset)
  | attempted hmem hrest hothers hlast => exact .attempted hmem hrest hothers hlast

theorem message_begins (h : f.Told attempts words s) :
    Text.Begins (attempts.map Attempt.message ++ words) f.message := by
  cases h with
  | alone location h => exact h.mono fun word hword => List.mem_append_right _ hword
  | attempted hmem =>
    exact .of_mem (List.mem_append_left _ (List.mem_map.mpr ⟨_, hmem, rfl⟩))

/-- A report has two links at most, all at one place. -/
theorem chain_le (h : f.Told attempts words s) :
    f.chain.length ≤ 2 ∧ ∀ link ∈ f.chain, link.location = f.location := by
  cases h with
  | alone location h =>
    refine ⟨Nat.le_succ 1, fun link hlink => ?_⟩
    rw [List.mem_singleton.mp hlink]
  | attempted =>
    refine ⟨Nat.le_refl 2, fun link hlink => ?_⟩
    simp only [chain, ofReason, List.mem_cons, List.not_mem_nil, or_false] at hlink
    rcases hlink with rfl | rfl
    · rfl
    · rfl

/-- There is a cause exactly under the messages of attempts, and under none that begins as those
that stand alone. -/
theorem cause_isSome_iff (h : f.Told attempts words s)
    (hapart : Text.Apart (attempts.map Attempt.message) words) :
    f.cause.isSome = true ↔ f.message ∈ attempts.map Attempt.message := by
  cases h with
  | alone location h =>
    exact iff_of_false Bool.false_ne_true fun hmem => (Text.Begins.of_mem hmem).not_apart h hapart
  | attempted hmem => exact iff_of_true rfl (List.mem_map.mpr ⟨_, hmem, rfl⟩)

theorem cause_eq_none (h : f.Told attempts words s)
    (hapart : Text.Apart (attempts.map Attempt.message) words)
    (halone : Text.Begins words f.message) :
    f.cause = none := by
  cases h with
  | alone location h => rfl
  | attempted hmem =>
    exact absurd hapart ((Text.Begins.of_mem (List.mem_map.mpr ⟨_, hmem, rfl⟩)).not_apart halone)

/-- A cause is the failure of the literal that was tried last, where the failure stands. -/
theorem cause_eq (h : f.Told attempts words s) {cause : Failure} (hcause : f.cause = some cause) :
    ∃ attempt ∈ attempts, f.message = attempt.message ∧ ∃ front back reason,
      s.rest = front ++ back ∧ f.location = s.location.advance front ∧
      (∀ t ∈ attempt.others, t.Refuses back) ∧
      (Token.literal attempt.last).reading back = .error reason ∧
      cause = .ofReason f.location reason := by
  cases h with
  | alone location h => cases hcause
  | attempted hmem hrest hothers hlast =>
    cases hcause
    exact ⟨_, hmem, rfl, _, _, _, hrest, rfl, hothers, hlast, rfl⟩

end Failure.Told

end Descent
