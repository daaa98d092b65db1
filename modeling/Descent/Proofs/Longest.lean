import Descent.Proofs.Anchoring
import Descent.Proofs.Calculator.Lexemes
import Descent.Proofs.Json.Lexemes

/-!
Maximal munch. The search takes matches by preference, and in general the preferred match is not
the longest one. For the tokens of the two grammars it is: wherever one of them stands, it passes
the longest text of its language that stands next, and it fails exactly if none does.

A node may read more than a given text of its language, but it must not stop short of it:
`Node.Covers`. For nodes in sequence this is put together from the parts (`covers_seq`). The first
node may run on into what follows only where the text of the second one is empty, and there the
second one must not be able to fail.
-/
namespace Descent

namespace Text

/-- The longest text of a language that a text begins with. -/
structure Longest (language : List Char → Prop) (text front : List Char) : Prop where
  begins : front <+: text
  mem : language front
  longest : ∀ other, other <+: text → language other → other.length ≤ front.length

/-- The longest run of a kind is all that stands in front of the first that is not of it. -/
theorem longest_takeWhile (p : Char → Bool) (text : List Char) :
    Longest (fun front => ∀ c ∈ front, p c = true) text (text.takeWhile p) where
  begins := List.takeWhile_prefix p
  mem := List.all_eq_true.mp List.all_takeWhile
  longest := by
    intro other hbegins hall
    obtain ⟨behind, rfl⟩ := hbegins
    rw [List.takeWhile_append_of_pos hall, List.length_append]
    exact Nat.le_add_right _ _

/-- Behind the longest text made of units stands no unit. -/
theorem Longest.not_unit {α : Type} {unit : α → List Char} {front rest : List Char}
    (h : Longest (fun front => ∃ units : List α, units.flatMap unit = front)
      (front ++ rest) front) {a : α} (ha : unit a ≠ []) : ¬ unit a <+: rest := by
  intro hunit
  obtain ⟨units, hunits⟩ := h.mem
  have hbegins : front ++ unit a <+: front ++ rest :=
    (List.prefix_append_right_inj front).mpr hunit
  have hmem : (units ++ [a]).flatMap unit = front ++ unit a := by simp [hunits]
  have hlong := h.longest _ hbegins ⟨units ++ [a], hmem⟩
  have hpos : 0 < (unit a).length := List.length_pos_iff.mpr ha
  rw [List.length_append] at hlong
  omega

theorem Avoids.append {p : Char → Bool} {text : List Char} (h : Avoids p text) (hne : text ≠ [])
    (rest : List Char) : Avoids p (text ++ rest) := by
  obtain ⟨c, cs, rfl⟩ := List.exists_cons_of_ne_nil hne
  exact avoids_cons (h c rfl) _

end Text

open Text (Avoids Longest)

namespace Regex.Node

/-- The node reads the front part of a text, and maybe more. -/
def Covers (n : Node) (front rest : List Char) : Prop :=
  ∃ left, n.munch (front ++ rest) = some left ∧ left <:+ rest

/-- A node that cannot fail covers nothing at all. -/
theorem covers_nil {n : Node} (h : n.total = true) (rest : List Char) : n.Covers [] rest := by
  obtain ⟨left, hleft⟩ := munch_isSome h rest
  exact ⟨left, hleft, munch_suffix hleft⟩

theorem covers_optional (mark : Mark) {set : Text.CharSet} (sign : Option Char)
    (hsign : ∀ c ∈ sign, set.contains c = true) (rest : List Char) :
    (choice mark (oneOf set) empty).Covers sign.toList rest := by
  cases sign with
  | none => exact covers_nil rfl rest
  | some c =>
    have hread : (oneOf set).munch (c :: rest) = some rest := if_pos (hsign c rfl)
    refine ⟨rest, ?_, List.suffix_refl rest⟩
    change ((oneOf set).munch (c :: rest)).or _ = some rest
    rw [hread]
    rfl

/-- Two nodes cover two texts in sequence. Either the first node stops in front of the second
text, or there is no second text, and nothing that the second node could fail for want of. -/
theorem covers_seq {first second : Node} {front behind rest : List Char}
    (hfirst : first.Covers front (behind ++ rest)) (hsecond : second.Covers behind rest)
    (hstops : behind ≠ [] → first.munch (front ++ (behind ++ rest)) = some (behind ++ rest))
    (htotal : behind = [] → second.total = true) :
    (seq first second).Covers (front ++ behind) rest := by
  rw [Covers, List.append_assoc]
  by_cases hnone : behind = []
  · subst hnone
    -- However far the first node went, the second one goes on from there.
    obtain ⟨mid, hmid, hbehind⟩ := hfirst
    obtain ⟨left, hleft⟩ := munch_isSome (htotal rfl) mid
    refine ⟨left, ?_, (munch_suffix hleft).trans hbehind⟩
    exact (munch_seq_eq_some_iff first second _ left).mpr ⟨mid, hmid, hleft⟩
  · obtain ⟨left, hleft, hrest⟩ := hsecond
    refine ⟨left, ?_, hrest⟩
    exact (munch_seq_eq_some_iff first second _ left).mpr ⟨_, hstops hnone, hleft⟩

end Regex.Node

namespace Token

/-- Wherever it stands, the token passes the longest text of the language that stands next; where
none does, it fails without having moved. -/
def ReadsLongest (t : Token) (language : List Char → Prop) (value : List Char → t.Yield) : Prop :=
  ∀ (ρ : Type) (Y : ρ → Type) (kind : Callee ρ → String)
    (body : (c : Callee ρ) → Scanner → Outcome (c.Yield Y)) (s : Scanner),
    (∃ front back, s.rest = front ++ back ∧ Longest language s.rest front ∧
      (t.script : Script Y t.Yield).run kind body s = .finished (.ok (value front))
        { s.noteAttempt t.what with rest := back, location := s.location.advance front }) ∨
    ((∀ front, front <+: s.rest → ¬ language front) ∧ ∃ reason,
      (t.script : Script Y t.Yield).run kind body s =
        .finished (.error (.ofReason s.location reason)) (s.noteAttempt t.what))

variable {t : Token} {language : List Char → Prop} {value : List Char → t.Yield}

theorem readsLongest_of_takes
    (h : ∀ text, (∃ front back, text = front ++ back ∧ Longest language text front ∧
        t.Takes text (value front) back) ∨
      ((∀ front, front <+: text → ¬ language front) ∧ t.Refuses text)) :
    t.ReadsLongest language value := by
  intro ρ Y kind body s
  rcases h s.rest with
    ⟨front, back, hrest, hlongest, front', hrest', hread⟩ | ⟨hnone, reason, hread⟩
  · obtain rfl : front = front' := List.append_cancel_right (hrest.symm.trans hrest')
    exact .inl ⟨front, back, hrest, hlongest, run_of_reading hrest hread kind body⟩
  · refine .inr ⟨hnone, reason, ?_⟩
    rw [run_script, hread]

/-- A token that passes all of a kind passes the longest run of it. -/
theorem readsLongest_of_passes {p : Char → Bool} (h : t.Passes p)
    (hvalue : ∀ {front rest v}, t.Takes (front ++ rest) v rest → v = value front) :
    t.ReadsLongest (fun front => ∀ c ∈ front, p c = true) value := by
  refine readsLongest_of_takes fun text => .inl ⟨text.takeWhile p, text.dropWhile p,
    List.takeWhile_append_dropWhile.symm, Text.longest_takeWhile p text, ?_⟩
  obtain ⟨v, htakes⟩ := h text
  have hsplit : text.takeWhile p ++ text.dropWhile p = text := List.takeWhile_append_dropWhile
  have hv : v = value (text.takeWhile p) := hvalue (by rwa [hsplit])
  rwa [hv] at htakes

/-- A pattern that takes texts of a language only, and covers all of them, takes the longest. -/
theorem readsLongest_pattern {p : Pattern} {n : Regex.Node} (hp : p.Munches n)
    (hsound : ∀ {text rest v}, (pattern p).Takes text v rest →
      ∃ front, language front ∧ text = front ++ rest)
    (hcovers : ∀ front rest, language front → n.Covers front rest) :
    (pattern p).ReadsLongest language String.ofList := by
  refine readsLongest_of_takes fun text => ?_
  cases hmunch : n.munch text with
  | none =>
    refine .inr ⟨?_, refuses_pattern hp hmunch⟩
    rintro front ⟨rest, rfl⟩ hmem
    obtain ⟨left, hleft, -⟩ := hcovers front rest hmem
    rw [hmunch] at hleft
    cases hleft
  | some rest =>
    obtain ⟨front, rfl⟩ := Regex.Node.munch_suffix hmunch
    have htakes := takes_pattern hp hmunch
    obtain ⟨front', hmem, hfront⟩ := hsound htakes
    obtain rfl : front = front' := List.append_cancel_right hfront
    refine .inl ⟨front, rest, rfl, ⟨List.prefix_append front rest, hmem, ?_⟩, htakes⟩
    rintro other ⟨behind, hother⟩ hlanguage
    -- The node reads past the other text as well, and it reads in one way only.
    obtain ⟨left, hleft, hbehind⟩ := hcovers other behind hlanguage
    rw [hother, hmunch, Option.some.injEq] at hleft
    subst hleft
    have hlengths := congrArg List.length hother
    have hle := hbehind.length_le
    simp only [List.length_append] at hlengths
    omega

end Token

namespace Decimal

open Regex

/-- A run of digits, with the digits that stand behind it. -/
def DigitRun.extend (d : DigitRun) (rest : List Char) : DigitRun where
  text := d.text ++ rest.takeWhile Char.isDigit
  nonempty := List.append_ne_nil_of_left_ne_nil d.nonempty _
  all := List.forall_mem_append.mpr ⟨d.all, List.all_eq_true.mp List.all_takeWhile⟩

theorem DigitRun.extend_append (d : DigitRun) (rest : List Char) :
    (d.extend rest).text ++ rest.dropWhile Char.isDigit = d.text ++ rest := by
  rw [extend, List.append_assoc, List.takeWhile_append_dropWhile]

theorem DigitRun.head?_extend (d : DigitRun) (rest : List Char) :
    (d.extend rest).text.head? = d.text.head? := by
  obtain ⟨c, cs, hdigits⟩ := List.exists_cons_of_ne_nil d.nonempty
  simp only [extend, hdigits, List.cons_append, List.head?_cons]

variable (mark digitsMark : Mark) (rest : List Char)

theorem covers_digits (d : DigitRun) : (digitsNode mark).Covers d.text rest := by
  refine ⟨rest.dropWhile Char.isDigit, ?_, List.dropWhile_suffix _⟩
  rw [← d.extend_append]
  exact (munch_digits_iff mark _ _).mpr ⟨d.extend rest, rfl, Text.avoids_dropWhile _ _⟩

theorem covers_fraction (fraction : Option DigitRun) :
    (fractionNode mark digitsMark).Covers (fractionText fraction) rest := by
  cases fraction with
  | none => exact Node.covers_nil rfl rest
  | some d =>
    refine ⟨rest.dropWhile Char.isDigit, ?_, List.dropWhile_suffix _⟩
    have hmunch := munch_point mark digitsMark (d.extend rest) (Text.avoids_dropWhile _ rest)
    rwa [fractionText, List.cons_append, d.extend_append] at hmunch

end Decimal

namespace Calculator

theorem covers_numeral (n : Numeral) (rest : List Char) : numberNode.Covers n.text rest := by
  refine Regex.Node.covers_seq (Decimal.covers_digits _ _ n.whole)
    (Decimal.covers_fraction _ _ rest n.fraction) (fun hfraction => ?_) (fun _ => rfl)
  have havoids : Avoids Char.isDigit (Decimal.fractionText n.fraction) := by
    simpa using Decimal.avoids_fraction n.fraction (Text.avoids_nil _)
  exact (Decimal.munch_digits_iff _ _ _).mpr ⟨n.whole, rfl, havoids.append hfraction rest⟩

end Calculator

namespace Json

open Decimal (fractionText fractionNode)
open Regex (Mark Node)

theorem covers_whole {d : Decimal.DigitRun} (hleading : d.text = ['0'] ∨ d.text.head? ≠ some '0')
    (rest : List Char) : wholeNode.Covers d.text rest := by
  rcases hleading with hzero | hnonzero
  · rw [hzero]
    exact ⟨rest, rfl, List.suffix_refl rest⟩
  · refine ⟨rest.dropWhile Char.isDigit, ?_, List.dropWhile_suffix _⟩
    have hmunch := munch_wholeNode (d.extend rest) (.inr (by rwa [d.head?_extend]))
      (Text.avoids_dropWhile _ rest)
    rwa [d.extend_append] at hmunch

theorem covers_power (n : Numeral) (rest : List Char) : powerNode.Covers n.powerText rest := by
  unfold Numeral.powerText
  cases n.power with
  | none => exact Node.covers_nil rfl rest
  | some p =>
    refine ⟨rest.dropWhile Char.isDigit, ?_, List.dropWhile_suffix _⟩
    have hmunch := munch_power { p with digits := p.digits.extend rest }
      (Text.avoids_dropWhile _ rest)
    have htext : ({ p with digits := p.digits.extend rest } : Power).text ++
        rest.dropWhile Char.isDigit = p.text ++ rest := by
      simp only [Power.text, List.cons_append, List.append_assoc, p.digits.extend_append]
    rwa [htext] at hmunch

theorem covers_numeral (n : Numeral) (rest : List Char) : numberNode.Covers n.text rest := by
  have hfraction : Node.Covers (.seq (fractionNode [0, 0, 0, 1, 1, 1] [0, 0, 1, 0, 1, 0, 1, 1, 1])
      powerNode) (fractionText n.fraction ++ n.powerText) rest := by
    refine Node.covers_seq (Decimal.covers_fraction _ _ _ n.fraction) (covers_power n rest)
      (fun hpower => ?_) (fun _ => rfl)
    obtain ⟨hdigit, hpoint⟩ := n.powerMark.avoids
    exact Decimal.munch_fraction _ _ n.fraction (hdigit.append hpower rest)
      (hpoint.append hpower rest)
  have hwhole := Node.covers_seq (covers_whole n.leading _) hfraction
    (fun hbehind => munch_wholeNode n.whole n.leading
      ((Decimal.avoids_fraction n.fraction n.powerMark.avoids.1).append hbehind rest))
    (fun _ => rfl)
  obtain ⟨sign, hminus, hsign⟩ : ∃ sign : Option Char,
      (∀ c ∈ sign, (Text.CharSet.single '-').contains c = true) ∧
      (if n.negative then ['-'] else []) = sign.toList := by
    cases n.negative with
    | false => exact ⟨none, fun c hc => (by cases hc), rfl⟩
    | true => exact ⟨some '-', fun c hc => (by cases hc; rfl), rfl⟩
  rw [Numeral.text, hsign]
  refine Node.covers_seq (Node.covers_optional _ sign hminus _) hwhole (fun _ => ?_)
    (fun hnone => ?_)
  · refine Node.munch_optional _ sign hminus ?_
    rw [List.append_assoc]
    refine n.whole.avoids (fun c hc => ?_) _
    rw [Text.CharSet.contains_single, beq_iff_eq] at hc
    rw [hc]
    rfl
  · exact absurd (List.append_eq_nil_iff.mp hnone).1 n.whole.nonempty

theorem covers_strokes (strokes : List Stroke) (rest : List Char) :
    textNode.Covers (strokes.flatMap Stroke.text) rest := by
  have hlong : strokes.length ≤ (strokes.flatMap Stroke.text ++ rest).length := by
    have hle := Text.length_le_flatMap stroke_text_ne_nil strokes
    rw [List.length_append]
    omega
  obtain ⟨rounds, hrounds⟩ := Nat.exists_eq_add_of_le hlong
  refine ⟨Regex.munchAll strokeNode.munch rounds rest, ?_,
    Regex.munchAll_suffix (fun _ _ hmore => Node.munch_suffix hmore) _ _⟩
  change some (Regex.munchAll strokeNode.munch (strokes.flatMap Stroke.text ++ rest).length _) = _
  rw [hrounds, Regex.munchAll_units fun a rest => (munch_strokeNode_iff _ _).mpr ⟨a, rfl⟩]

/-- What stands behind the longest run of strokes. -/
theorem behind_longest_strokes {front rest : List Char}
    (h : Longest (fun front => ∃ strokes : List Stroke, strokes.flatMap Stroke.text = front)
      (front ++ rest) front) :
    rest = [] ∨ ∃ c cs, rest = c :: cs ∧
      (c = '"' ∨ Text.Category.control.chars.contains c = true ∨
        (c = '\\' ∧ ∀ stroke : Stroke, ¬ stroke.text <+: rest)) := by
  cases rest with
  | nil => exact .inl rfl
  | cons c cs =>
    refine .inr ⟨c, cs, rfl, ?_⟩
    have hnone : ∀ stroke : Stroke, ¬ stroke.text <+: c :: cs :=
      fun stroke => h.not_unit (stroke_text_ne_nil stroke)
    by_cases hplain : isPlain c = true
    · exact absurd (List.prefix_append [c] cs) (hnone (.plain c hplain))
    · by_cases hbackslash : c = '\\'
      · exact .inr (.inr ⟨hbackslash, hnone⟩)
      · by_cases hquote : c = '"'
        · exact .inl hquote
        · refine .inr (.inl ?_)
          rw [← Bool.not_eq_false]
          intro hcontrol
          exact hplain ((isPlain_iff c).mpr ⟨hbackslash, hquote, hcontrol⟩)

end Json

/-- The tokens of the two grammars pass the longest text of their languages: numerals, runs of
strokes, and runs of blanks. Behind a run of strokes the text ends, or there stands what no stroke
begins with. -/
theorem tokens_read_longest :
    (Token.pattern Json.numberPattern).ReadsLongest
      (fun front => ∃ n : Json.Numeral, n.text = front) String.ofList ∧
    (Token.pattern Calculator.number).ReadsLongest
      (fun front => ∃ n : Calculator.Numeral, n.text = front) String.ofList ∧
    (Token.pattern Json.textPattern).ReadsLongest
      (fun front => ∃ strokes : List Json.Stroke, strokes.flatMap Json.Stroke.text = front)
      String.ofList ∧
    (∀ front rest, Longest (fun front => ∃ strokes : List Json.Stroke,
        strokes.flatMap Json.Stroke.text = front) (front ++ rest) front →
      rest = [] ∨ ∃ c cs, rest = c :: cs ∧
        (c = '"' ∨ Text.Category.control.chars.contains c = true ∨
          (c = '\\' ∧ ∀ stroke : Json.Stroke, ¬ stroke.text <+: rest))) ∧
    (Token.pattern Json.blankPattern).ReadsLongest
      (fun front => ∀ c ∈ front, Json.isSpace c = true) String.ofList ∧
    Calculator.blanks.ReadsLongest (fun front => ∀ c ∈ front, c ∈ [' ', '\t', '\r', '\n'])
      fun _ => () := by
  refine ⟨Token.readsLongest_pattern Json.number_munches ?_ ?_,
    Token.readsLongest_pattern Calculator.number_munches ?_ ?_,
    Token.readsLongest_pattern Json.text_munches ?_ ?_, fun _ _ => Json.behind_longest_strokes,
    Token.readsLongest_of_passes Json.blanks_passes ?_, ?_⟩
  · intro text rest v htakes
    obtain ⟨n, htext, -⟩ := Json.numeral_of_takes htakes
    exact ⟨n.text, ⟨n, rfl⟩, htext⟩
  · rintro _ rest ⟨n, rfl⟩
    exact Json.covers_numeral n rest
  · intro text rest v htakes
    obtain ⟨n, htext, -⟩ := Calculator.numeral_of_takes htakes
    exact ⟨n.text, ⟨n, rfl⟩, htext⟩
  · rintro _ rest ⟨n, rfl⟩
    exact Calculator.covers_numeral n rest
  · intro text rest v htakes
    obtain ⟨strokes, htext, -⟩ := Json.strokes_of_takes htakes
    exact ⟨_, ⟨strokes, rfl⟩, htext⟩
  · rintro _ rest ⟨strokes, rfl⟩
    exact Json.covers_strokes strokes rest
  · intro front rest v htakes
    obtain ⟨-, front', htext, rfl⟩ := Token.munch_of_takes Json.blanks_munches htakes
    rw [List.append_cancel_right htext]
  · have hlongest : (Token.anyOf " \t\r\n").ReadsLongest
        (fun front => ∀ c ∈ front, " \t\r\n".toList.contains c = true) fun _ => () :=
      Token.readsLongest_of_passes (Token.passes_anyOf " \t\r\n") fun _ => rfl
    simp only [Calculator.blank_iff] at hlongest
    exact hlongest

end Descent
