import Descent.Calculator
import Descent.Proofs.Anchoring
import Descent.Proofs.NormalForm
import Descent.Proofs.Numerals
import Descent.Proofs.Renaming

/-!
Patterns that are made of regular expressions. Such a pattern is compiled anew from the source
text of the expression, inside of an anchored group. If the flags that the expression was compiled
with make no difference to it, the pattern finds exactly those of its matches that begin where
they are looked for, with the same groups: the anchor stands in front of the same tree, whose
choices only have longer marks, and a match that begins at a place is preferred over those further
along. The flags themselves are not part of the source text and are lost.
-/
namespace Descent

namespace Regex

/-- No match begins in front of the place where the search begins. -/
theorem Node.le_of_searchFrom {n : Node} {rounds : Nat} {taken : Taken} {before : Option Char}
    {index : Nat} {rest : List Char} {start : Nat} {s : Spot}
    (h : n.searchFrom rounds taken before index rest = some (start, s)) : index ≤ start := by
  induction rest generalizing taken before index with
  | nil =>
    unfold searchFrom at h
    split at h
    · cases h
      exact Nat.le_refl _
    · cases h
  | cons c cs ih =>
    unfold searchFrom at h
    split at h
    · cases h
      exact Nat.le_refl _
    · dsimp only at h
      split at h
      · cases h
      · exact Nat.le_of_succ_le (ih h)

namespace Expression

def atStart (e : Expression) : Expression := (require .textStart).concat e

theorem isAnchored_atStart (e : Expression) : (e.atStart.toNode []).isAnchored = true := by
  cases e <;> rfl

theorem groupCount_pos (e : Expression) : 1 ≤ e.groupCount := by
  induction e with
  | empty | oneOf | require => exact Nat.le_refl 1
  | group index body ih => exact Nat.le_trans ih (Nat.le_max_right _ _)
  | seq first second ih | either first second ih => exact Nat.le_trans ih (Nat.le_max_left _ _)
  | repeated least most greedy body ih => exact ih

theorem groupCount_atStart (e : Expression) : e.atStart.groupCount = e.groupCount := by
  have hpos := e.groupCount_pos
  cases e with
  | empty => rfl
  | _ => exact Nat.max_eq_right hpos

/-- At the start of the text the anchor holds, and what follows it is the expression, somewhere in
the tree. -/
theorem run_atStart (e : Expression) {s : Spot} (hs : s.holds .textStart = true) :
    ∃ tail, ∀ rounds k taken,
      (e.atStart.toNode []).run rounds k s taken = (e.toNode tail).run rounds k s taken := by
  refine ⟨[1], fun rounds k taken => ?_⟩
  cases e <;> exact if_pos hs

/-- The anchored expression finds the match of the expression that begins at the start. -/
theorem search_atStart (e : Expression) (text : List Char) :
    (e.atStart.toNode []).search text =
      ((e.toNode []).search text).filter fun found => found.1 = 0 := by
  have hstart : (Spot.mk none text 0 []).holds .textStart = true := rfl
  obtain ⟨tail, htail⟩ := e.run_atStart hstart
  unfold Node.search
  rcases e.run_toNode tail (text.length + 1) ⟨none, text, 0, []⟩ with
    ⟨t, hrun, hrun'⟩ | ⟨taken, taken', hrun, hrun'⟩
  · rw [← htail] at hrun'
    unfold Node.searchFrom
    rw [hrun, hrun']
    rfl
  · rw [← htail] at hrun'
    have hnone : (e.atStart.toNode []).searchFrom (text.length + 1) ∅ none 0 text = none := by
      unfold Node.searchFrom
      rw [hrun']
      cases text with
      | nil => rfl
      | cons c cs => exact if_pos e.isAnchored_atStart
    rw [hnone, eq_comm, Option.filter_eq_none_iff]
    rintro ⟨start, s⟩ hfound
    have hlater : 1 ≤ start := by
      unfold Node.searchFrom at hfound
      rw [hrun] at hfound
      cases text with
      | nil => cases hfound
      | cons c cs =>
        dsimp only at hfound
        split at hfound
        · cases hfound
        · exact Node.le_of_searchFrom hfound
    simp only [decide_eq_true_eq]
    omega

end Expression

end Regex

namespace Pattern

/-- A pattern finds the match of its source that begins where it is looked for. -/
theorem find?_eq_filter {source : String} {r : Regex} {p : Pattern}
    (hr : Regex.compile? source {} = some r) (hp : compile? source = some p) (text : List Char) :
    p.find? text = (r.find? text).filter fun m => m.whole.start = 0 := by
  obtain ⟨phrase, e, hread, hmeaning, rfl⟩ := Regex.exists_meaning hr
  obtain ⟨e', hanchored, rfl⟩ := exists_meaning hp hread
  rw [Regex.Phrase.meaning?_anchored hmeaning, Option.some.injEq] at hanchored
  obtain rfl : e.atStart = e' := hanchored
  unfold find? Regex.find?
  dsimp only
  rw [e.search_atStart, e.groupCount_atStart]
  cases (e.toNode []).search text with
  | none => rfl
  | some found =>
    obtain ⟨start, s⟩ := found
    cases start with
    | zero => rfl
    | succ start => rfl

theorem compile?_source {source : String} {p : Pattern} (hp : compile? source = some p) :
    p.source = source := by
  obtain ⟨r, -, rfl⟩ := Option.map_eq_some_iff.mp hp
  rfl

end Pattern

namespace Token

variable {ρ : Type} {Y : ρ → Type} (kind : Callee ρ → String)
  (body : (c : Callee ρ) → Scanner → Outcome (c.Yield Y)) (s : Scanner)

/-- The token comes to a value, and then stands behind the next `n` bytes. -/
def Reads (t : Token) (n : Nat) (value : t.Yield) : Prop :=
  ∃ front back u, s.rest = front ++ back ∧ Text.width front = n ∧
    t.script.run kind body s = .finished (.ok value) u ∧ u.rest = back ∧
    u.location = s.location.advance front

variable {kind body s}

theorem reads_iff_of_ok {t : Token} {front back : List Char} {found : t.Yield}
    (hrest : s.rest = front ++ back) (hread : t.reading s.rest = .ok (Text.width front, found))
    (n : Nat) (value : t.Yield) :
    t.Reads kind body s n value ↔ Text.width front = n ∧ value = found := by
  have hrun := run_of_reading hrest hread kind body
  constructor
  · rintro ⟨front', back', u, hrest', hwidth, hrun', hu, -⟩
    rw [hrun] at hrun'
    cases hrun'
    obtain rfl : back = back' := hu
    obtain rfl : front = front' := List.append_cancel_right (hrest.symm.trans hrest')
    exact ⟨hwidth, rfl⟩
  · rintro ⟨hwidth, rfl⟩
    exact ⟨front, back, _, hrest, hwidth, hrun, rfl, rfl⟩

theorem not_reads_of_error {t : Token} {reason : Reason}
    (hread : t.reading s.rest = .error reason) (n : Nat) (value : t.Yield) :
    ¬ t.Reads kind body s n value := by
  rintro ⟨front, back, u, -, -, hrun, -⟩
  rw [run_script, hread] at hrun
  cases hrun

/-- Both tokens of a pattern that finds what begins at the text read it, or both refuse the text.
-/
theorem reading_of_filter {p : Pattern} {text : List Char} {found : Option Regex.Match}
    (h : p.find? text = found.filter fun m => m.whole.start = 0) :
    (∃ m, found = some m ∧ m.whole.start = 0 ∧
      (pattern p).reading text =
        .ok (Text.width (text.take m.whole.stop), String.ofList (m.whole.slice text)) ∧
      (groups p).reading text =
        .ok (Text.width (text.take m.whole.stop), groupTexts m text)) ∨
    ((∀ m, found = some m → m.whole.start ≠ 0) ∧
      (pattern p).reading text = .error (.patternMismatch p.source) ∧
      (groups p).reading text = .error (.patternMismatch p.source)) := by
  by_cases hmatch : ∃ m, found = some m ∧ m.whole.start = 0
  · obtain ⟨m, rfl, hstart⟩ := hmatch
    have hfind : p.find? text = some m := h.trans (Option.filter_some_pos (decide_eq_true hstart))
    have hslice : m.whole.slice text = text.take m.whole.stop := by
      rw [Regex.Span.slice, hstart, List.drop_zero, Nat.sub_zero]
    refine .inl ⟨m, rfl, hstart, ?_, ?_⟩
    · simp only [reading, hfind]
    · simp only [reading, hfind, hslice]
  · have hno : ∀ m, found = some m → m.whole.start ≠ 0 :=
      fun m hm hstart => hmatch ⟨m, hm, hstart⟩
    have hfind : p.find? text = none :=
      h.trans (Option.filter_eq_none_iff.mpr fun m hm => by simpa using hno m hm)
    exact .inr ⟨hno, by simp only [reading, hfind], by simp only [reading, hfind]⟩

end Token

section Meaning

variable {ρ : Type} {Y : ρ → Type} (kind : Callee ρ → String)
  (body : (c : Callee ρ) → Scanner → Outcome (c.Yield Y)) (s : Scanner)

/-- The two tokens of a pattern do what a regular expression finds: they read `n` bytes exactly if
it finds the match from zero to `n` in the text left, with the texts of this match, and otherwise
they refuse the text. -/
structure Pattern.Keeps (p : Pattern) (r : Regex) : Prop where
  reads : ∀ n value, (Token.pattern p).Reads kind body s n value ↔
    ∃ m, r.find? s.rest = some m ∧ m.whole.start = 0 ∧
      Text.width (s.rest.take m.whole.stop) = n ∧ value = String.ofList (m.whole.slice s.rest)
  readsGroups : ∀ n texts, (Token.groups p).Reads kind body s n texts ↔
    ∃ m, r.find? s.rest = some m ∧ m.whole.start = 0 ∧
      Text.width (s.rest.take m.whole.stop) = n ∧ texts = Token.groupTexts m s.rest
  refuses : (∀ m, r.find? s.rest = some m → m.whole.start ≠ 0) →
    ∃ u, u.rest = s.rest ∧ u.location = s.location ∧
      (Token.pattern p).script.run kind body s =
        .finished (.error (.ofReason s.location (.patternMismatch r.source))) u ∧
      (Token.groups p).script.run kind body s =
        .finished (.error (.ofReason s.location (.patternMismatch r.source))) u

/-- A pattern that is made of a regular expression keeps its meaning, if the flags of the
expression make no difference. -/
theorem pattern_keeps_meaning {source : String} {flags : Regex.Flags} {r plain : Regex}
    {p : Pattern} (hr : Regex.compile? source flags = some r)
    (hplain : Regex.compile? source {} = some plain)
    (hflags : ∀ text, plain.find? text = r.find? text) (hp : Pattern.ofRegex? r = some p) :
    p.Keeps kind body s r := by
  have hsource : r.source = source := by
    obtain ⟨phrase, e, -, -, rfl⟩ := Regex.exists_meaning hr
    rfl
  have hcompiled : Pattern.compile? source = some p := hsource ▸ hp
  have hfind : p.find? s.rest = (r.find? s.rest).filter fun m => m.whole.start = 0 := by
    rw [Pattern.find?_eq_filter hplain hcompiled, hflags]
  rcases Token.reading_of_filter hfind with ⟨m, hm, hstart, hpattern, hgroups⟩ |
    ⟨hno, hpattern, hgroups⟩
  · have hrest : s.rest = s.rest.take m.whole.stop ++ s.rest.drop m.whole.stop :=
      (List.take_append_drop _ _).symm
    have hunique : ∀ {n : Nat} {α : Type} {value : α} (of : Regex.Match → α),
        (Text.width (s.rest.take m.whole.stop) = n ∧ value = of m) ↔
          ∃ m, r.find? s.rest = some m ∧ m.whole.start = 0 ∧
            Text.width (s.rest.take m.whole.stop) = n ∧ value = of m := by
      intro n α value of
      constructor
      · rintro ⟨hwidth, hvalue⟩
        exact ⟨m, hm, hstart, hwidth, hvalue⟩
      · rintro ⟨m', hm', -, hwidth, hvalue⟩
        obtain rfl : m = m' := Option.some.inj (hm.symm.trans hm')
        exact ⟨hwidth, hvalue⟩
    refine ⟨fun n value => ?_, fun n texts => ?_, fun hno => absurd hstart (hno m hm)⟩
    · exact (Token.reads_iff_of_ok hrest hpattern n value).trans
        (hunique fun m => String.ofList (m.whole.slice s.rest))
    · exact (Token.reads_iff_of_ok hrest hgroups n texts).trans
        (hunique fun m => Token.groupTexts m s.rest)
  · obtain ⟨log, hnote, -⟩ := s.exists_noteAttempt (Token.pattern p).what
    rw [Pattern.compile?_source hcompiled, ← hsource] at hpattern hgroups
    refine ⟨fun n value => ?_, fun n texts => ?_, fun _ =>
      ⟨s.noteAttempt (Token.pattern p).what, by rw [hnote], by rw [hnote], ?_, ?_⟩⟩
    · exact iff_of_false (Token.not_reads_of_error hpattern n value)
        fun ⟨m, hm, hstart, _⟩ => hno m hm hstart
    · exact iff_of_false (Token.not_reads_of_error hgroups n texts)
        fun ⟨m, hm, hstart, _⟩ => hno m hm hstart
    · rw [Token.run_script, hpattern]
    · rw [Token.run_script, hgroups]
      rfl

/-- The flag for lines makes no difference to the pattern for numbers. -/
theorem pattern_keeps_meaning_of_number :
    let source := "[0-9]+(?:\\.[0-9]+)?"
    ∃ r plain p, Regex.compile? source { multiLine := true } = some r ∧
      Regex.compile? source {} = some plain ∧ (∀ text, plain.find? text = r.find? text) ∧
      Pattern.ofRegex? r = some p ∧
      p.Keeps Calculator.grammar.kindOf (Calculator.grammar.run 0) (.ofString "12x" {}) r := by
  intro source
  have hcompiled : ((Regex.compile? source { multiLine := true }).bind fun r =>
      (Regex.compile? source {}).bind fun plain => (Pattern.ofRegex? r).map fun _ =>
        decide (plain.node = r.node ∧ plain.groupCount = r.groupCount)) = some true := by
    decide +kernel
  obtain ⟨r, hr, hcompiled⟩ := Option.bind_eq_some_iff.mp hcompiled
  obtain ⟨plain, hplain, hcompiled⟩ := Option.bind_eq_some_iff.mp hcompiled
  obtain ⟨p, hp, hcompiled⟩ := Option.map_eq_some_iff.mp hcompiled
  obtain ⟨hnode, hcount⟩ := of_decide_eq_true hcompiled
  have hflags : ∀ text, plain.find? text = r.find? text := by
    intro text
    unfold Regex.find?
    rw [hnode, hcount]
  exact ⟨r, plain, p, hr, hplain, hflags, hp, pattern_keeps_meaning _ _ _ hr hplain hflags hp⟩

end Meaning

/-- The expression for the letter `a` in either case finds the large one, and the pattern that is
made of it does not. -/
theorem flags_are_lost :
    ∃ r p, Regex.compile? "a" { ignoreCase := true } = some r ∧ Pattern.ofRegex? r = some p ∧
      r.find? ['A'] = some ⟨⟨0, 1⟩, []⟩ ∧
      ∃ u, (Token.pattern p).script.run Calculator.grammar.kindOf (Calculator.grammar.run 0)
        (.ofString "A" {}) = .finished (.error (.ofReason .start (.patternMismatch "a"))) u := by
  have hcompiled : ((Regex.compile? "a" { ignoreCase := true }).bind fun r =>
      (Pattern.ofRegex? r).map fun p => decide
        ((r.node = .oneOf (.ofChars ['A', 'a']) ∧ r.groupCount = 1 ∧ p.source = "a") ∧
          p.anchored.node = .seq (.require .textStart) (.oneOf (.single 'a')) ∧
          p.anchored.groupCount = 1)) = some true := by
    decide +kernel
  obtain ⟨r, hr, hcompiled⟩ := Option.bind_eq_some_iff.mp hcompiled
  obtain ⟨p, hp, hcompiled⟩ := Option.map_eq_some_iff.mp hcompiled
  obtain ⟨⟨hnode, hcount, hsource⟩, hanchored, hgroups⟩ := of_decide_eq_true hcompiled
  have hmunches : p.Munches (.oneOf (.single 'a')) := ⟨hanchored, hgroups, rfl, List.nodup_nil⟩
  refine ⟨r, p, hr, hp, ?_, (Scanner.ofString "A" {}).noteAttempt (Token.pattern p).what, ?_⟩
  · have hread : (Text.CharSet.ofChars ['A', 'a']).contains 'A' = true := by decide
    unfold Regex.find?
    rw [hnode, hcount]
    simp [Regex.Node.search, Regex.Node.searchFrom, Regex.Node.run, Regex.Spot.read?, hread]
  · have hnone : (Regex.Node.oneOf (.single 'a')).munch ['A'] = none :=
      Regex.Node.munch_oneOf_eq_none (Text.avoids_cons (by decide) [])
    have hfind : p.find? (Scanner.ofString "A" {}).rest = none := by
      change p.find? ['A'] = none
      rw [hmunches.find?_eq, hnone, Option.map_none]
    have hrefused : (Token.pattern p).reading (Scanner.ofString "A" {}).rest =
        .error (.patternMismatch "a") := by
      simp only [Token.reading, hfind, hsource]
    rw [Token.run_script, hrefused]
    rfl

end Descent
