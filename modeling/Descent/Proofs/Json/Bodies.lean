import Descent.Proofs.Driving
import Descent.Proofs.Json.Dispatch
import Descent.Proofs.Json.Spellings

/-!
The two readers of the body of a text. The pattern decides where a body ends, and the decoder what
it stands for; each has a rule of its own for escapes. What the pattern takes is a run of strokes,
in which the decoder can find one thing wrong: a surrogate without its other half. What the
decoder reads is made of spellings, and the pattern takes these but for controls and bare quotes.
-/
namespace Descent

/-- The pattern matches all of the text. -/
def Pattern.MatchesAll (p : Pattern) (text : List Char) : Prop :=
  ∃ m, p.find? text = some m ∧ m.whole = ⟨0, text.length⟩

theorem Pattern.Munches.matchesAll_iff {p : Pattern} {n : Regex.Node} (h : p.Munches n)
    (text : List Char) : p.MatchesAll text ↔ n.munch text = some [] := by
  unfold MatchesAll
  rw [h.find?_eq]
  constructor
  · rintro ⟨m, hm, hwhole⟩
    obtain ⟨rest, hmunch, rfl⟩ := Option.map_eq_some_iff.mp hm
    obtain ⟨front, rfl⟩ := Regex.Node.munch_suffix hmunch
    have hstop : (front ++ rest).length - rest.length = (front ++ rest).length :=
      congrArg Regex.Span.stop hwhole
    have hrest : rest.length = 0 := by
      rw [List.length_append] at hstop
      omega
    rw [hmunch, List.length_eq_zero_iff.mp hrest]
  · intro hmunch
    exact ⟨_, by rw [hmunch]; rfl, rfl⟩

namespace Json

open Script
open Escape (Spelled Spells decode IsSurrogate)

/-- The pattern for the body of a text matches runs of strokes. -/
theorem textPattern_matchesAll_iff (raw : List Char) :
    textPattern.MatchesAll raw ↔ ∃ strokes : List Stroke, raw = strokes.flatMap Stroke.text := by
  rw [text_munches.matchesAll_iff]
  constructor
  · intro hmunch
    obtain ⟨strokes, hstrokes⟩ := Regex.exists_flatMap_of_munchAll
      (fun text rest => (munch_strokeNode_iff text rest).mp) raw.length raw
    have hrest : Regex.munchAll strokeNode.munch raw.length raw = [] := Option.some.inj hmunch
    rw [hrest, List.append_nil] at hstrokes
    exact ⟨strokes, hstrokes⟩
  · rintro ⟨strokes, rfl⟩
    have hlong := Text.length_le_flatMap stroke_text_ne_nil strokes
    have hmunch := Regex.munchAll_flatMap
      (fun s rest => (munch_strokeNode_iff _ _).mpr ⟨s, rfl⟩) strokes
      (rfl : strokeNode.munch [] = none) hlong
    rw [List.append_nil] at hmunch
    exact congrArg some hmunch

/-- The character stands in the text, and in no escape. -/
def Bare (c : Char) (raw : List Char) : Prop :=
  ∃ front text back, Spelled front text ∧ raw = front ++ c :: back

theorem Bare.behind {c d : Char} {unit raw : List Char} (hunit : Spells d unit)
    (h : Bare c raw) : Bare c (unit ++ raw) := by
  obtain ⟨front, text, back, hfront, rfl⟩ := h
  exact ⟨unit ++ front, d :: text, back, .cons hunit hfront, (List.append_assoc _ _ _).symm⟩

/-- A spelling without controls that is no quote is a piece. -/
theorem exists_piece_of_spells {c : Char} {unit : List Char} (h : Spells c unit)
    (hcontrol : ∀ d ∈ unit, Text.Category.control.chars.contains d = false)
    (hquote : unit ≠ ['"']) : ∃ p : Piece, p.text = unit := by
  cases h with
  | plain hbackslash =>
    have hplain : isPlain c = true :=
      (isPlain_iff c).mpr ⟨hbackslash, fun hc => hquote (by rw [hc]), hcontrol c (by simp)⟩
    exact ⟨.plain c hplain, rfl⟩
  | short hshort => exact ⟨.short _ c hshort, rfl⟩
  | unicode q hcode =>
    obtain ⟨hhigh, hlow⟩ := Escape.code_not_surrogate c
    rw [← hcode] at hhigh hlow
    exact ⟨.unicode q hhigh hlow, rfl⟩
  | pair high low hc hhigh hlow =>
    have hlt : c.toNat < 0x110000 := c.valid.elim (fun h => Nat.lt_trans h (by decide)) And.right
    obtain ⟨hisHigh, hisLow, -⟩ := Escape.pairCode_of_halves hc hlt hhigh hlow
    exact ⟨.pair high low hisHigh hisLow, rfl⟩

/-- What is made of spellings without controls and bare quotes is made of pieces. -/
theorem exists_pieces_of_spelled {raw text : List Char} (h : Spelled raw text)
    (hcontrol : ∀ c ∈ raw, Text.Category.control.chars.contains c = false)
    (hquote : ¬ Bare '"' raw) : ∃ pieces : List Piece, raw = pieces.flatMap Piece.text := by
  induction h with
  | nil => exact ⟨[], rfl⟩
  | @cons c unit raw text hunit _ ih =>
    have hother : unit ≠ ['"'] := by
      rintro rfl
      exact hquote ⟨[], [], raw, .nil, rfl⟩
    obtain ⟨p, rfl⟩ := exists_piece_of_spells hunit
      (fun d hd => hcontrol d (List.mem_append_left _ hd)) hother
    obtain ⟨pieces, rfl⟩ := ih (fun d hd => hcontrol d (List.mem_append_right _ hd))
      fun hbare => hquote (hbare.behind hunit)
    exact ⟨p :: pieces, List.flatMap_cons.symm⟩

theorem parse_quoted {raw : List Char} (h : textPattern.MatchesAll raw) :
    grammar.parse (.rule .string) (String.ofList ('"' :: (raw ++ ['"']))) =
      (readBody (Position.start.advance ('"' :: raw)) raw).mapError .failure := by
  obtain ⟨strokes, rfl⟩ := (textPattern_matchesAll_iff raw).mp h
  let text := String.ofList ('"' :: (strokes.flatMap Stroke.text ++ ['"']))
  have hs : (Scanner.ofString text {}).Allows (Grammar.levels {}) 1 :=
    Scanner.ofString_allows text (by decide) (by decide)
  have hrest : (Scanner.ofString text {}).rest =
      '"' :: (strokes.flatMap Stroke.text ++ '"' :: []) := String.toList_ofList
  obtain ⟨u, hrun, hend⟩ := stringBody_run hs strokes hrest
  have hstart : grammar.start (.rule .string) (.ofString text {}) = _ := hrun
  have hcompletes : Outcome.Completes _ (grammar.parse (.rule .string) text) :=
    grammar.parseWithin_completes (.rule .string) text {}
  rw [hstart] at hcompletes
  show grammar.parse (.rule .string) text = _
  generalize grammar.parse (.rule .string) text = result at hcompletes ⊢
  unfold readBody at hcompletes ⊢
  cases hdecode : decode (strokes.flatMap Stroke.text) with
  | error e =>
    rw [hdecode] at hcompletes
    cases hcompletes with
    | failed => rfl
  | ok value =>
    rw [hdecode] at hcompletes
    cases hcompletes with
    | whole => rfl
    | leftOver _ _ hleft => exact absurd (hend value hdecode) hleft

/-- The pattern for the body of a text and the decoder agree. What the pattern matches in full is
decoded, unless it has a surrogate without its other half. What is decoded, without a control in
it and without a quote that is not part of an escape, is matched in full. And what is matched in
full is read in quotes as it is decoded. -/
theorem pattern_and_decoder_agree (raw : List Char) :
    (textPattern.MatchesAll raw →
      (∃ text, decode raw = .ok text) ∨
        ∃ code, 0xd800 ≤ code ∧ code ≤ 0xdfff ∧ decode raw = .error (.invalidCodepoint code)) ∧
    (∀ text, decode raw = .ok text →
      (∀ c ∈ raw, Text.Category.control.chars.contains c = false) → ¬ Bare '"' raw →
      textPattern.MatchesAll raw ∧
        grammar.parse (.rule .string) (String.ofList ('"' :: (raw ++ ['"']))) =
          .ok (String.ofList text)) ∧
    (textPattern.MatchesAll raw →
      grammar.parse (.rule .string) (String.ofList ('"' :: (raw ++ ['"']))) =
        ((decode raw).map String.ofList).mapError fun e =>
          .failure ⟨Position.start.advance ('"' :: raw), e.message, none⟩) := by
  refine ⟨?_, ?_, ?_⟩
  · intro hall
    obtain ⟨strokes, rfl⟩ := (textPattern_matchesAll_iff raw).mp hall
    rcases Escape.decode_strokes strokes with ⟨pieces, -, hdecode⟩ | ⟨code, hcode, hdecode⟩
    · exact Or.inl ⟨_, hdecode⟩
    · exact Or.inr ⟨code, hcode.1, hcode.2, hdecode⟩
  · intro text hdecode hcontrol hquote
    obtain ⟨pieces, hpieces⟩ :=
      exists_pieces_of_spelled ((Escape.decode_eq_ok_iff raw text).mp hdecode) hcontrol hquote
    have hall : textPattern.MatchesAll raw :=
      (textPattern_matchesAll_iff raw).mpr ⟨_, hpieces.trans (strokes_of_pieces pieces)⟩
    refine ⟨hall, ?_⟩
    rw [parse_quoted hall, readBody, hdecode]
    rfl
  · intro hall
    rw [parse_quoted hall, readBody]
    cases decode raw <;> rfl

/-- An escaped quote, an escaped backslash in front of the letter of another escape and a pair of
surrogates; and a surrogate in front of an escape that does not complete it. -/
theorem pattern_and_decoder_agree_on_surrogates :
    let others := ['\\', '\\', 'u', '\\', 'u', 'd', '8', '3', 'd', '\\', 'u', 'D', 'E', '0', '0']
    let good := '\\' :: '"' :: others
    let bad := ['\\', 'u', 'd', '8', '3', 'd', '\\', 'n']
    decode good = .ok ['"', '\\', 'u', '😀'] ∧ textPattern.MatchesAll good ∧
      grammar.parse (.rule .string) (String.ofList ('"' :: (good ++ ['"']))) = .ok "\"\\u😀" ∧
    textPattern.MatchesAll bad ∧ ∃ code, decode bad = .error (.invalidCodepoint code) := by
  intro others good bad
  have hdecode : decode good = .ok ['"', '\\', 'u', '😀'] := rfl
  have hcontrol : ∀ c ∈ good, Text.Category.control.chars.contains c = false :=
    Text.forall_of_all (by decide +kernel)
  have hquote : ¬ Bare '"' good := by
    rintro ⟨front, text, back, hfront, hgood⟩
    match front, hgood with
    | [], hgood => exact absurd (List.cons.inj hgood).1 (by decide)
    | [c], hgood =>
      obtain ⟨rfl, -⟩ := List.cons.inj hgood
      cases hfront.decode_eq
    | c :: d :: front, hgood =>
      have hothers : others = front ++ '"' :: back := (List.cons.inj (List.cons.inj hgood).2).2
      have hmem : '"' ∈ others := by simp [hothers]
      exact absurd hmem (by decide)
  obtain ⟨-, hconverse, -⟩ := pattern_and_decoder_agree good
  obtain ⟨hall, hparse⟩ := hconverse _ hdecode hcontrol hquote
  have hbad : textPattern.MatchesAll bad :=
    (textPattern_matchesAll_iff bad).mpr
      ⟨[.unicode ⟨⟨'d', 13, rfl⟩, ⟨'8', 8, rfl⟩, ⟨'3', 3, rfl⟩, ⟨'d', 13, rfl⟩⟩,
        .short 'n' '\n' (by decide)], rfl⟩
  refine ⟨hdecode, hall, hparse, hbad, ?_⟩
  rcases (pattern_and_decoder_agree bad).1 hbad with ⟨text, htext⟩ | ⟨code, -, -, hcode⟩
  · cases htext
  · exact ⟨code, hcode⟩

end Json

end Descent
