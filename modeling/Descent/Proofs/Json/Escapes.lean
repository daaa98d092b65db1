import Descent.Proofs.Json.Derivation

/-!
Decoding the body of a text. The pattern for texts takes a run of strokes: characters, and escapes
that are complete. Decoding reads a piece at a time; a surrogate stroke is only part of a piece,
and decoding a run of strokes comes to an end exactly if the strokes make up pieces.
-/
namespace Descent.Json

/-- What the pattern for texts takes at a time. -/
inductive Stroke
  | plain (c : Char) (h : isPlain c = true)
  | short (letter c : Char) (h : (letter, c) ∈ shortEscapes)
  | unicode (q : Quad)

def Stroke.text : Stroke → List Char
  | plain c _ => [c]
  | short letter _ _ => ['\\', letter]
  | unicode q => '\\' :: 'u' :: q.text

def Piece.strokes : Piece → List Stroke
  | plain c h => [.plain c h]
  | short letter c h => [.short letter c h]
  | unicode q _ _ => [.unicode q]
  | pair high low _ _ => [.unicode high, .unicode low]

theorem Piece.strokes_text (p : Piece) : p.strokes.flatMap Stroke.text = p.text := by
  cases p with
  | plain | short => rfl
  | unicode q => exact List.append_nil _
  | pair high low =>
    simp [strokes, Stroke.text, text]

theorem strokes_of_pieces (pieces : List Piece) :
    pieces.flatMap Piece.text = (pieces.flatMap Piece.strokes).flatMap Stroke.text := by
  rw [List.flatMap_assoc]
  simp only [Piece.strokes_text]

theorem isPlain_iff (c : Char) :
    isPlain c = true ↔ c ≠ '\\' ∧ c ≠ '"' ∧ Text.Category.control.chars.contains c = false := by
  simp [isPlain, and_assoc]

namespace Escape

theorem hexValue?_lt {c : Char} {value : Nat} (h : Text.hexValue? c = some value) :
    value < 16 := by
  unfold Text.hexValue? at h
  simp only [Bool.and_eq_true, decide_eq_true_eq, Char.le_def, UInt32.le_iff_toNat_le] at h
  split at h
  · next hc =>
    cases h
    have hhigh : c.val.toNat ≤ 57 := hc.2
    change c.val.toNat - 48 < 16
    omega
  · split at h
    · next hc =>
      cases h
      have hhigh : c.val.toNat ≤ 102 := hc.2
      change c.val.toNat - 97 + 10 < 16
      omega
    · split at h
      · next hc =>
        cases h
        have hhigh : c.val.toNat ≤ 70 := hc.2
        change c.val.toNat - 65 + 10 < 16
        omega
      · cases h

theorem code_lt (q : Quad) : q.code < 0x10000 := by
  have h₁ := hexValue?_lt q.first.spells
  have h₂ := hexValue?_lt q.second.spells
  have h₃ := hexValue?_lt q.third.spells
  have h₄ := hexValue?_lt q.fourth.spells
  unfold Quad.code
  omega

theorem hex4_append (q : Quad) (rest : List Char) :
    hex4 (q.text ++ rest) = .ok (q.code, rest) := by
  simp only [Quad.text, List.cons_append, List.nil_append, hex4, q.first.spells, q.second.spells,
    q.third.spells, q.fourth.spells]
  rfl

theorem charOfCode_quad (q : Quad) :
    charOfCode q.code =
      if isHighSurrogate q.code || isLowSurrogate q.code then .error (.invalidCodepoint q.code)
      else .ok (Char.ofNat q.code) := by
  have hlt := code_lt q
  unfold charOfCode
  by_cases hsurrogate : (isHighSurrogate q.code || isLowSurrogate q.code) = true
  · have hinvalid : ¬ q.code.isValidChar := by
      simp only [isHighSurrogate, isLowSurrogate, Bool.or_eq_true, Bool.and_eq_true,
        decide_eq_true_eq] at hsurrogate
      unfold Nat.isValidChar
      omega
    rw [if_neg hinvalid, if_pos hsurrogate]
  · have hvalid : q.code.isValidChar := by
      simp only [isHighSurrogate, isLowSurrogate, Bool.or_eq_true, Bool.and_eq_true,
        decide_eq_true_eq] at hsurrogate
      unfold Nat.isValidChar
      omega
    rw [if_pos hvalid, if_neg hsurrogate]

theorem charOfCode_pair {high low : Nat} (hhigh : isHighSurrogate high = true)
    (hlow : isLowSurrogate low = true) :
    charOfCode (pairCode high low) = .ok (Char.ofNat (pairCode high low)) := by
  simp only [isHighSurrogate, isLowSurrogate, Bool.and_eq_true, decide_eq_true_eq] at hhigh hlow
  have hvalid : (pairCode high low).isValidChar := by
    unfold Nat.isValidChar pairCode
    omega
  unfold charOfCode
  rw [if_pos hvalid]

theorem ok_bind {ε α β : Type} (value : α) (f : α → Except ε β) :
    ((Except.ok value : Except ε α) >>= f) = f value := rfl

theorem unicode_alone {text rest : List Char} {code : Nat} (htext : hex4 text = .ok (code, rest))
    (h : isHighSurrogate code = false ∨ ∀ tail, rest ≠ '\\' :: 'u' :: tail) :
    unicode text = (charOfCode code).map fun c => (c, rest) := by
  unfold unicode
  rw [htext, ok_bind]
  dsimp only
  split
  · next tail hhigh =>
    rcases h with hnot | hnot
    · rw [hhigh] at hnot
      cases hnot
    · exact absurd rfl (hnot tail)
  · cases charOfCode code <;> rfl

theorem unicode_followed {text tail behind : List Char} {high low : Nat}
    (htext : hex4 text = .ok (high, '\\' :: 'u' :: tail)) (hhigh : isHighSurrogate high = true)
    (htail : hex4 tail = .ok (low, behind)) :
    unicode text =
      if isLowSurrogate low then (charOfCode (pairCode high low)).map fun c => (c, behind)
      else (charOfCode high).map fun c => (c, '\\' :: 'u' :: tail) := by
  unfold unicode
  rw [htext, ok_bind]
  dsimp only
  rw [hhigh]
  split
  · next hrest =>
    cases hrest
    rw [htail, ok_bind]
    dsimp only
    split
    · cases charOfCode (pairCode high low) <;> rfl
    · cases charOfCode high <;> rfl
  · next hnot => exact absurd rfl (hnot tail rfl)

/-- What a piece is read as, in front of any text. -/
theorem next_piece (p : Piece) (rest : List Char) :
    ∃ c cs, p.text ++ rest = c :: cs ∧ next c cs = .ok (p.char, rest) := by
  cases p with
  | plain c h =>
    obtain ⟨hbackslash, -, -⟩ := (isPlain_iff c).mp h
    refine ⟨c, rest, rfl, ?_⟩
    simp [next, hbackslash, Piece.char]
  | short letter c h =>
    refine ⟨'\\', letter :: rest, rfl, ?_⟩
    simp only [shortEscapes, List.mem_cons, Prod.mk.injEq, List.not_mem_nil, or_false] at h
    rcases h with ⟨rfl, rfl⟩ | ⟨rfl, rfl⟩ | ⟨rfl, rfl⟩ | ⟨rfl, rfl⟩ | ⟨rfl, rfl⟩ | ⟨rfl, rfl⟩ |
      ⟨rfl, rfl⟩ | ⟨rfl, rfl⟩ <;> rfl
  | unicode q hhigh hlow =>
    refine ⟨'\\', 'u' :: (q.text ++ rest), rfl, ?_⟩
    have hcode := charOfCode_quad q
    rw [hhigh, hlow] at hcode
    exact (unicode_alone (hex4_append q rest) (Or.inl hhigh)).trans (by rw [hcode]; rfl)
  | pair high low hhigh hlow =>
    refine ⟨'\\', 'u' :: (high.text ++ '\\' :: 'u' :: (low.text ++ rest)), ?_, ?_⟩
    · simp [Piece.text]
    · have hnext := unicode_followed (hex4_append high _) hhigh (hex4_append low rest)
      rw [if_pos hlow, charOfCode_pair hhigh hlow] at hnext
      exact hnext

theorem decodeFrom_cons (steps : Nat) (c : Char) (cs : List Char) :
    decodeFrom (steps + 1) (c :: cs) =
      next c cs >>= fun read => decodeFrom steps read.2 >>= fun text =>
        .ok (read.1 :: text) := rfl

/-- A text that is made of pieces is decoded to their characters. -/
theorem decodeFrom_pieces (pieces : List Piece) {steps : Nat} (h : pieces.length ≤ steps) :
    decodeFrom steps (pieces.flatMap Piece.text) = .ok (pieces.map Piece.char) := by
  induction pieces generalizing steps with
  | nil =>
    cases steps with
    | zero => rfl
    | succ steps => rfl
  | cons p pieces ih =>
    obtain ⟨n, rfl⟩ : ∃ n, steps = n + 1 := ⟨steps - 1, by simp at h; omega⟩
    obtain ⟨c, cs, htext, hnext⟩ := next_piece p (pieces.flatMap Piece.text)
    rw [List.flatMap_cons, htext, decodeFrom_cons, hnext, ok_bind, ih (Nat.le_of_succ_le_succ h)]
    rfl

theorem text_ne_nil (p : Piece) : p.text ≠ [] := by
  obtain ⟨c, cs, htext, -⟩ := next_piece p []
  rw [List.append_nil] at htext
  rw [htext]
  exact List.cons_ne_nil _ _

theorem decode_pieces (pieces : List Piece) :
    decode (pieces.flatMap Piece.text) = .ok (pieces.map Piece.char) :=
  decodeFrom_pieces pieces (Text.length_le_flatMap text_ne_nil pieces)

theorem exists_low {others : List Stroke} {tail : List Char}
    (h : others.flatMap Stroke.text = '\\' :: 'u' :: tail) :
    ∃ q rest, others = .unicode q :: rest ∧ tail = q.text ++ rest.flatMap Stroke.text := by
  cases others with
  | nil => cases h
  | cons s rest =>
    rw [List.flatMap_cons] at h
    cases s with
    | plain c hplain =>
      obtain ⟨hbackslash, -, -⟩ := (isPlain_iff c).mp hplain
      exact absurd (List.cons.inj h).1 hbackslash
    | short letter c hshort =>
      have hletter : letter = 'u' := (List.cons.inj (List.cons.inj h).2).1
      rw [hletter] at hshort
      exact absurd hshort (by simp [shortEscapes])
    | unicode q => exact ⟨q, rest, rfl, (List.cons.inj (List.cons.inj h).2).2.symm⟩

def IsSurrogate (n : Nat) : Prop := 0xd800 ≤ n ∧ n ≤ 0xdfff

theorem isSurrogate_of_high {n : Nat} (h : isHighSurrogate n = true) : IsSurrogate n := by
  simp only [isHighSurrogate, Bool.and_eq_true, decide_eq_true_eq] at h
  unfold IsSurrogate
  omega

theorem isSurrogate_of_low {n : Nat} (h : isLowSurrogate n = true) : IsSurrogate n := by
  simp only [isLowSurrogate, Bool.and_eq_true, decide_eq_true_eq] at h
  unfold IsSurrogate
  omega

/-- A step on the escape of a code point reads a piece, unless it is a surrogate without its
other half. -/
theorem unicode_strokes (q : Quad) (others : List Stroke) :
    (∃ (p : Piece) (behind : List Stroke), .unicode q :: others = p.strokes ++ behind) ∨
      ∃ code, IsSurrogate code ∧
        unicode (q.text ++ others.flatMap Stroke.text) = .error (.invalidCodepoint code) := by
  have hhex := hex4_append q (others.flatMap Stroke.text)
  have hcode := charOfCode_quad q
  by_cases hhigh : isHighSurrogate q.code = true
  · rw [hhigh, Bool.true_or, if_pos rfl] at hcode
    by_cases hfollowed : ∃ tail, others.flatMap Stroke.text = '\\' :: 'u' :: tail
    · obtain ⟨tail, htail⟩ := hfollowed
      obtain ⟨low, rest, rfl, rfl⟩ := exists_low htail
      by_cases hlow : isLowSurrogate low.code = true
      · exact Or.inl ⟨.pair q low hhigh hlow, rest, rfl⟩
      · refine Or.inr ⟨q.code, isSurrogate_of_high hhigh, ?_⟩
        rw [htail] at hhex ⊢
        rw [unicode_followed hhex hhigh (hex4_append low _), if_neg hlow, hcode]
        rfl
    · refine Or.inr ⟨q.code, isSurrogate_of_high hhigh, ?_⟩
      rw [unicode_alone hhex (Or.inr fun tail htail => hfollowed ⟨tail, htail⟩), hcode]
      rfl
  · have hnot : isHighSurrogate q.code = false := Bool.eq_false_iff.mpr hhigh
    cases hlow : isLowSurrogate q.code with
    | false => exact Or.inl ⟨.unicode q hnot hlow, others, rfl⟩
    | true =>
      refine Or.inr ⟨q.code, isSurrogate_of_low hlow, ?_⟩
      rw [hnot, hlow, Bool.false_or, if_pos rfl] at hcode
      rw [unicode_alone hhex (Or.inl hnot), hcode]
      rfl

/-- A step on strokes reads a piece of them, or finds a surrogate without its other half. -/
theorem next_strokes {strokes : List Stroke} {c : Char} {cs : List Char}
    (htext : strokes.flatMap Stroke.text = c :: cs) :
    (∃ (p : Piece) (others : List Stroke), strokes = p.strokes ++ others ∧
        next c cs = .ok (p.char, others.flatMap Stroke.text)) ∨
      ∃ code, IsSurrogate code ∧ next c cs = .error (.invalidCodepoint code) := by
  have hpiece : ∀ (p : Piece) (others : List Stroke), strokes = p.strokes ++ others →
      next c cs = .ok (p.char, others.flatMap Stroke.text) := by
    intro p others hstrokes
    obtain ⟨c', cs', htext', hnext⟩ := next_piece p (others.flatMap Stroke.text)
    rw [← p.strokes_text, ← List.flatMap_append, ← hstrokes, htext] at htext'
    obtain ⟨rfl, rfl⟩ := List.cons.inj htext'
    exact hnext
  cases strokes with
  | nil => cases htext
  | cons s others =>
    cases s with
    | plain d hplain =>
      exact Or.inl ⟨.plain d hplain, others, rfl, hpiece (.plain d hplain) _ rfl⟩
    | short letter d hshort =>
      exact Or.inl ⟨.short letter d hshort, others, rfl, hpiece (.short letter d hshort) _ rfl⟩
    | unicode q =>
      rcases unicode_strokes q others with ⟨p, behind, hstrokes⟩ | ⟨code, hcode, hnext⟩
      · exact Or.inl ⟨p, behind, hstrokes, hpiece p behind hstrokes⟩
      · obtain ⟨rfl, rfl⟩ := List.cons.inj htext
        exact Or.inr ⟨code, hcode, hnext⟩

/-- Strokes make up pieces, and are decoded to their characters, or there is a surrogate among
them without its other half. -/
theorem decodeFrom_strokes {steps : Nat} {strokes : List Stroke}
    (hsteps : (strokes.flatMap Stroke.text).length ≤ steps) :
    (∃ pieces : List Piece, strokes.flatMap Stroke.text = pieces.flatMap Piece.text ∧
        decodeFrom steps (strokes.flatMap Stroke.text) = .ok (pieces.map Piece.char)) ∨
      ∃ code, IsSurrogate code ∧
        decodeFrom steps (strokes.flatMap Stroke.text) = .error (.invalidCodepoint code) := by
  induction steps generalizing strokes with
  | zero =>
    have hnil := List.length_eq_zero_iff.mp (Nat.le_zero.mp hsteps)
    rw [hnil]
    exact Or.inl ⟨[], rfl, rfl⟩
  | succ steps ih =>
    cases htext : strokes.flatMap Stroke.text with
    | nil => exact Or.inl ⟨[], rfl, rfl⟩
    | cons c cs =>
      rw [decodeFrom_cons]
      rcases next_strokes htext with ⟨p, others, rfl, hnext⟩ | ⟨code, hcode, hnext⟩
      · rw [List.flatMap_append, p.strokes_text] at htext hsteps
        have hpos : 0 < p.text.length := List.length_pos_iff.mpr (text_ne_nil p)
        rw [List.length_append] at hsteps
        have hshort : (others.flatMap Stroke.text).length ≤ steps := by omega
        rw [hnext, ok_bind]
        rcases ih hshort with ⟨pieces, hpieces, hdecode⟩ | ⟨code, hcode, hdecode⟩
        · refine Or.inl ⟨p :: pieces, ?_, ?_⟩
          · rw [← htext, List.flatMap_cons, hpieces]
          · rw [hdecode]
            rfl
        · refine Or.inr ⟨code, hcode, ?_⟩
          rw [hdecode]
          rfl
      · refine Or.inr ⟨code, hcode, ?_⟩
        rw [hnext]
        rfl

/-- What becomes of strokes when they are decoded. -/
theorem decode_strokes (strokes : List Stroke) :
    (∃ pieces : List Piece, strokes.flatMap Stroke.text = pieces.flatMap Piece.text ∧
        decode (strokes.flatMap Stroke.text) = .ok (pieces.map Piece.char)) ∨
      ∃ code, IsSurrogate code ∧
        decode (strokes.flatMap Stroke.text) = .error (.invalidCodepoint code) :=
  decodeFrom_strokes (Nat.le_refl _)

theorem pieces_of_decode {strokes : List Stroke} {text : List Char}
    (h : decode (strokes.flatMap Stroke.text) = .ok text) :
    ∃ pieces : List Piece, strokes.flatMap Stroke.text = pieces.flatMap Piece.text ∧
      pieces.map Piece.char = text := by
  rcases decode_strokes strokes with ⟨pieces, hpieces, hdecode⟩ | ⟨code, -, hdecode⟩
  · rw [hdecode] at h
    cases h
    exact ⟨pieces, hpieces, rfl⟩
  · rw [hdecode] at h
    cases h

end Escape

end Descent.Json
