import Descent.Proofs.Json.Escapes

/-!
What decoding reads, whatever stands in the text. A character has a few spellings: itself, an
escape of one letter, the escape of its code, or those of its two surrogates. No spelling begins
another one, so that a text is made of spellings in one way at most. Decoding reads a spelling at
a time; a text that begins with none is `Stuck`, and how it is stuck is the error.
-/
namespace Descent.Json.Escape

/-- The ways to write a character. -/
inductive Spells : Char → List Char → Prop
  | plain {c : Char} (h : c ≠ '\\') : Spells c [c]
  | short {letter c : Char} (h : (letter, c) ∈ shortEscapes) : Spells c ['\\', letter]
  | unicode {c : Char} (q : Quad) (h : q.code = c.toNat) : Spells c ('\\' :: 'u' :: q.text)
  | pair {c : Char} (high low : Quad) (hc : 0xffff < c.toNat)
      (hhigh : high.code = 0xd800 + (c.toNat - 0x10000) / 0x400)
      (hlow : low.code = 0xdc00 + (c.toNat - 0x10000) % 0x400) :
      Spells c ('\\' :: 'u' :: (high.text ++ '\\' :: 'u' :: low.text))

/-- The first text is made of spellings of the characters of the second one, in order. -/
inductive Spelled : List Char → List Char → Prop
  | nil : Spelled [] []
  | cons {c : Char} {unit raw text : List Char} (h : Spells c unit) (hs : Spelled raw text) :
      Spelled (unit ++ raw) (c :: text)

/-- Where four digits should stand, there are none. -/
inductive Malformed : List Char → Error → Prop
  | truncated {rest : List Char} (h : rest.length < 4) : Malformed rest .truncatedUnicode
  | hex {a b c d : Char} {rest : List Char} (h : ∃ x ∈ [a, b, c, d], Text.hexValue? x = none) :
      Malformed (a :: b :: c :: d :: rest) (.invalidHex [a, b, c, d])

/-- The text begins with no spelling, for this reason. -/
inductive Stuck : List Char → Error → Prop
  | backslash : Stuck ['\\'] .trailingBackslash
  | letter {c : Char} {rest : List Char} (hc : c ≠ 'u') (h : ∀ d, (c, d) ∉ shortEscapes) :
      Stuck ('\\' :: c :: rest) (.invalidEscape c)
  | digits {rest : List Char} {e : Error} (h : Malformed rest e) : Stuck ('\\' :: 'u' :: rest) e
  | low {q : Quad} {rest : List Char} (h : isLowSurrogate q.code = true) :
      Stuck ('\\' :: 'u' :: (q.text ++ rest)) (.invalidCodepoint q.code)
  | highMalformed {q : Quad} {rest : List Char} {e : Error} (h : isHighSurrogate q.code = true)
      (hrest : Malformed rest e) : Stuck ('\\' :: 'u' :: (q.text ++ '\\' :: 'u' :: rest)) e
  | highAlone {q : Quad} {rest : List Char} (h : isHighSurrogate q.code = true)
      (hrest : ∀ tail, rest ≠ '\\' :: 'u' :: tail) :
      Stuck ('\\' :: 'u' :: (q.text ++ rest)) (.invalidCodepoint q.code)
  | highUnpaired {q other : Quad} {rest : List Char} (h : isHighSurrogate q.code = true)
      (hother : isLowSurrogate other.code = false) :
      Stuck ('\\' :: 'u' :: (q.text ++ '\\' :: 'u' :: (other.text ++ rest)))
        (.invalidCodepoint q.code)

/-- The longest front part of a text that is made of spellings. -/
structure LongestSpelled (front raw : List Char) : Prop where
  front_of : front <+: raw
  spelled : ∃ text, Spelled front text
  longest : ∀ other text, other <+: raw → Spelled other text → other.length ≤ front.length

section Steps

variable {c : Char} {rest : List Char}

theorem short?_eq_some_iff (letter d : Char) :
    short? letter = some d ↔ (letter, d) ∈ shortEscapes := by
  constructor
  · intro h
    unfold short? at h
    split at h <;> cases h <;> decide
  · intro h
    simp only [shortEscapes, List.mem_cons, Prod.mk.injEq, List.not_mem_nil, or_false] at h
    rcases h with ⟨rfl, rfl⟩ | ⟨rfl, rfl⟩ | ⟨rfl, rfl⟩ | ⟨rfl, rfl⟩ | ⟨rfl, rfl⟩ | ⟨rfl, rfl⟩ |
      ⟨rfl, rfl⟩ | ⟨rfl, rfl⟩ <;> rfl

theorem code_not_surrogate (c : Char) :
    isHighSurrogate c.toNat = false ∧ isLowSurrogate c.toNat = false := by
  have hvalid : c.toNat < 0xd800 ∨ 0xdfff < c.toNat ∧ c.toNat < 0x110000 := c.valid
  simp only [isHighSurrogate, isLowSurrogate, Bool.and_eq_false_iff, decide_eq_false_iff_not]
  omega

/-- The surrogates of a code, taken together. -/
theorem pairCode_of_halves {code high low : Nat} (hcode : 0xffff < code) (hlt : code < 0x110000)
    (hhigh : high = 0xd800 + (code - 0x10000) / 0x400)
    (hlow : low = 0xdc00 + (code - 0x10000) % 0x400) :
    isHighSurrogate high = true ∧ isLowSurrogate low = true ∧ pairCode high low = code := by
  simp only [isHighSurrogate, isLowSurrogate, Bool.and_eq_true, decide_eq_true_eq]
  refine ⟨by omega, by omega, ?_⟩
  unfold pairCode
  omega

/-- Two surrogates, one of each kind, are those of a character. -/
theorem halves_of_pair {high low : Nat} (hhigh : isHighSurrogate high = true)
    (hlow : isLowSurrogate low = true) :
    ∃ c : Char, 0xffff < c.toNat ∧ high = 0xd800 + (c.toNat - 0x10000) / 0x400 ∧
      low = 0xdc00 + (c.toNat - 0x10000) % 0x400 := by
  simp only [isHighSurrogate, isLowSurrogate, Bool.and_eq_true, decide_eq_true_eq] at hhigh hlow
  have hvalid : (pairCode high low).isValidChar := by
    unfold Nat.isValidChar pairCode
    omega
  have hcode : (Char.ofNat (pairCode high low)).toNat = pairCode high low := by
    unfold Char.ofNat
    rw [dif_pos hvalid]
    rfl
  refine ⟨Char.ofNat (pairCode high low), ?_⟩
  rw [hcode]
  unfold pairCode
  omega

theorem next_of_spells {unit cs : List Char} {d : Char} (h : Spells d unit)
    (htext : unit ++ rest = c :: cs) : next c cs = .ok (d, rest) := by
  cases h with
  | plain hplain =>
    obtain ⟨rfl, rfl⟩ := List.cons.inj htext
    simp [next, hplain]
  | @short letter _ hshort =>
    obtain ⟨rfl, rfl⟩ := List.cons.inj htext
    have hletter : letter ≠ 'u' := by
      rintro rfl
      exact absurd hshort (by simp [shortEscapes])
    simp [next, (short?_eq_some_iff letter d).mpr hshort]
  | unicode q hcode =>
    obtain ⟨rfl, rfl⟩ := List.cons.inj htext
    obtain ⟨hhigh, hlow⟩ := code_not_surrogate d
    have hchar := charOfCode_quad q
    rw [hcode, hhigh, hlow, Char.ofNat_toNat] at hchar
    refine (unicode_alone (hex4_append q rest) (Or.inl ?_)).trans ?_
    · rw [hcode, hhigh]
    · rw [hcode, hchar]
      rfl
  | pair high low hd hhigh hlow =>
    rw [List.cons_append, List.cons_append, List.append_assoc] at htext
    obtain ⟨rfl, rfl⟩ := List.cons.inj htext
    have hlt : d.toNat < 0x110000 := d.valid.elim (fun h => Nat.lt_trans h (by decide)) And.right
    obtain ⟨hisHigh, hisLow, hcode⟩ := pairCode_of_halves hd hlt hhigh hlow
    refine (unicode_followed (hex4_append high _) hisHigh (hex4_append low rest)).trans ?_
    rw [if_pos hisLow, charOfCode_pair hisHigh hisLow, hcode, Char.ofNat_toNat]
    rfl

theorem hex4_malformed {e : Error} (h : Malformed rest e) : hex4 rest = .error e := by
  cases h with
  | truncated hshort =>
    match rest, hshort with
    | [], _ | [_], _ | [_, _], _ | [_, _, _], _ => rfl
  | hex hnone =>
    obtain ⟨x, hmem, hx⟩ := hnone
    simp only [hex4]
    split
    · next ha hb hc hd =>
      simp only [List.mem_cons, List.not_mem_nil, or_false] at hmem
      rcases hmem with rfl | rfl | rfl | rfl <;> simp_all
    · rfl

theorem unicode_malformed {e : Error} (h : Malformed rest e) : unicode rest = .error e := by
  unfold unicode
  rw [hex4_malformed h]
  rfl

theorem unicode_followed_malformed {q : Quad} {e : Error} (hhigh : isHighSurrogate q.code = true)
    (h : Malformed rest e) : unicode (q.text ++ '\\' :: 'u' :: rest) = .error e := by
  unfold unicode
  rw [hex4_append, ok_bind]
  dsimp only
  rw [hhigh]
  change (hex4 rest >>= _) = _
  rw [hex4_malformed h]
  rfl

theorem next_of_stuck {cs : List Char} {e : Error} (h : Stuck (c :: cs) e) :
    next c cs = .error e := by
  have hsurrogate : ∀ q : Quad, isHighSurrogate q.code = true ∨ isLowSurrogate q.code = true →
      charOfCode q.code = .error (.invalidCodepoint q.code) := by
    intro q hq
    rw [charOfCode_quad, if_pos (Bool.or_eq_true_iff.mpr hq)]
  cases h with
  | backslash => rfl
  | letter hc hletter =>
    have hnone : short? _ = none :=
      Option.eq_none_iff_forall_ne_some.mpr fun d hd => hletter d ((short?_eq_some_iff _ d).mp hd)
    simp [next, hnone]
  | digits hmalformed => exact unicode_malformed hmalformed
  | @low q rest hlow =>
    have hnot : isHighSurrogate q.code = false := by
      simp only [isLowSurrogate, isHighSurrogate, Bool.and_eq_true, decide_eq_true_eq,
        Bool.and_eq_false_iff, decide_eq_false_iff_not] at hlow ⊢
      omega
    refine (unicode_alone (hex4_append q rest) (Or.inl hnot)).trans ?_
    rw [hsurrogate q (Or.inr hlow)]
    rfl
  | highMalformed hhigh hmalformed => exact unicode_followed_malformed hhigh hmalformed
  | @highAlone q rest hhigh hrest =>
    refine (unicode_alone (hex4_append q rest) (Or.inr hrest)).trans ?_
    rw [hsurrogate q (Or.inl hhigh)]
    rfl
  | @highUnpaired q other rest hhigh hother =>
    refine (unicode_followed (hex4_append q _) hhigh (hex4_append other rest)).trans ?_
    rw [hother, hsurrogate q (Or.inl hhigh)]
    rfl

theorem quad_or_malformed (rest : List Char) :
    (∃ (q : Quad) (tail : List Char), rest = q.text ++ tail) ∨ ∃ e, Malformed rest e := by
  match rest with
  | [] | [_] | [_, _] | [_, _, _] => exact Or.inr ⟨_, .truncated (by simp)⟩
  | a :: b :: c :: d :: tail =>
    by_cases h : ∃ x ∈ [a, b, c, d], Text.hexValue? x = none
    · exact Or.inr ⟨_, .hex h⟩
    · have hdigit : ∀ x ∈ [a, b, c, d], ∃ digit : HexDigit, digit.char = x := by
        intro x hx
        cases hvalue : Text.hexValue? x with
        | none => exact absurd ⟨x, hx, hvalue⟩ h
        | some value => exact ⟨⟨x, value, hvalue⟩, rfl⟩
      obtain ⟨a', rfl⟩ := hdigit a (by simp)
      obtain ⟨b', rfl⟩ := hdigit b (by simp)
      obtain ⟨c', rfl⟩ := hdigit c (by simp)
      obtain ⟨d', rfl⟩ := hdigit d (by simp)
      exact Or.inl ⟨⟨a', b', c', d'⟩, tail, rfl⟩

/-- What may stand at the beginning of a text that is not empty: a spelling, or what is stuck. -/
inductive Begins (raw : List Char) : Prop
  | spelling (d : Char) (unit rest : List Char) (h : Spells d unit) (htext : raw = unit ++ rest)
  | stuck (e : Error) (h : Stuck raw e)

theorem begins_surrogate {q : Quad} (h : isHighSurrogate q.code = true) (rest : List Char) :
    Begins ('\\' :: 'u' :: (q.text ++ rest)) := by
  by_cases hfollowed : ∃ tail, rest = '\\' :: 'u' :: tail
  · obtain ⟨tail, rfl⟩ := hfollowed
    rcases quad_or_malformed tail with ⟨other, behind, rfl⟩ | ⟨e, hmalformed⟩
    · cases hlow : isLowSurrogate other.code with
      | true =>
        obtain ⟨d, hd, hhalf, hhalf'⟩ := halves_of_pair h hlow
        exact .spelling d _ behind (.pair q other hd hhalf hhalf') (by simp)
      | false => exact .stuck _ (.highUnpaired h hlow)
    · exact .stuck e (.highMalformed h hmalformed)
  · exact .stuck _ (.highAlone h fun tail htail => hfollowed ⟨tail, htail⟩)

theorem begins_unicode (rest : List Char) : Begins ('\\' :: 'u' :: rest) := by
  rcases quad_or_malformed rest with ⟨q, tail, rfl⟩ | ⟨e, hmalformed⟩
  · cases hhigh : isHighSurrogate q.code with
    | true => exact begins_surrogate hhigh tail
    | false =>
      cases hlow : isLowSurrogate q.code with
      | true => exact .stuck _ (.low hlow)
      | false =>
        have hvalid : q.code.isValidChar := by
          have hlt := code_lt q
          simp only [isHighSurrogate, isLowSurrogate, Bool.and_eq_false_iff,
            decide_eq_false_iff_not] at hhigh hlow
          unfold Nat.isValidChar
          omega
        have hcode : q.code = (Char.ofNat q.code).toNat := by
          unfold Char.ofNat
          rw [dif_pos hvalid]
          rfl
        exact .spelling _ _ tail (.unicode q hcode) rfl
  · exact .stuck e (.digits hmalformed)

theorem begins (c : Char) (cs : List Char) : Begins (c :: cs) := by
  by_cases hc : c = '\\'
  · subst hc
    cases cs with
    | nil => exact .stuck _ .backslash
    | cons letter rest =>
      by_cases hletter : letter = 'u'
      · subst hletter
        exact begins_unicode rest
      · by_cases hshort : ∃ d, (letter, d) ∈ shortEscapes
        · obtain ⟨d, hd⟩ := hshort
          exact .spelling d _ rest (.short hd) rfl
        · exact .stuck _ (.letter hletter fun d hd => hshort ⟨d, hd⟩)
  · exact .spelling c [c] cs (.plain hc) rfl

end Steps

theorem Spells.ne_nil {d : Char} {unit : List Char} (h : Spells d unit) : unit ≠ [] := by
  cases h <;> exact List.cons_ne_nil _ _

theorem Spells.next_eq {d : Char} {unit : List Char} (h : Spells d unit) (rest : List Char) :
    ∃ c cs, unit ++ rest = c :: cs ∧ next c cs = .ok (d, rest) := by
  obtain ⟨c, cs, rfl⟩ := List.exists_cons_of_ne_nil h.ne_nil
  exact ⟨c, cs ++ rest, rfl, next_of_spells h rfl⟩

/-- A text begins with a spelling in one way only. -/
theorem Spells.unique {d d' : Char} {unit unit' rest rest' : List Char} (h : Spells d unit)
    (h' : Spells d' unit') (htext : unit ++ rest = unit' ++ rest') : d = d' ∧ rest = rest' := by
  obtain ⟨c, cs, hcons, hnext⟩ := h.next_eq rest
  have hnext' : next c cs = .ok (d', rest') := next_of_spells h' (htext.symm.trans hcons)
  rw [hnext] at hnext'
  cases hnext'
  exact ⟨rfl, rfl⟩

theorem Spells.not_stuck {d : Char} {unit : List Char} (h : Spells d unit) (rest : List Char)
    (e : Error) : ¬ Stuck (unit ++ rest) e := by
  intro hstuck
  obtain ⟨c, cs, hcons, hnext⟩ := h.next_eq rest
  rw [hcons] at hstuck
  rw [next_of_stuck hstuck] at hnext
  cases hnext

/-- Every text is made of spellings as far as it is not stuck. -/
theorem exists_spelled (raw : List Char) :
    ∃ front back text, raw = front ++ back ∧ Spelled front text ∧
      (back = [] ∨ ∃ e, Stuck back e) := by
  induction hlength : raw.length using Nat.strongRecOn generalizing raw with
  | ind n ih =>
    subst hlength
    cases raw with
    | nil => exact ⟨[], [], [], rfl, .nil, Or.inl rfl⟩
    | cons c cs =>
      cases begins c cs with
      | stuck e hstuck => exact ⟨[], c :: cs, [], rfl, .nil, Or.inr ⟨e, hstuck⟩⟩
      | spelling d unit rest hspells htext =>
        have hpos : 0 < unit.length := List.length_pos_iff.mpr hspells.ne_nil
        have hshort : rest.length < (c :: cs).length := by
          rw [htext, List.length_append]
          omega
        obtain ⟨front, back, text, rfl, hspelled, hback⟩ := ih _ hshort rest rfl
        refine ⟨unit ++ front, back, d :: text, ?_, .cons hspells hspelled, hback⟩
        rw [htext, List.append_assoc]

namespace Spelled

variable {front raw rest text text' : List Char}

/-- Spellings behind spellings: what is left of a text that is made of them. -/
theorem behind (h : Spelled front text) (hall : Spelled (front ++ rest) text') :
    ∃ behind, Spelled rest behind := by
  induction h generalizing text' with
  | nil => exact ⟨text', hall⟩
  | @cons c unit raw text hunit hraw ih =>
    generalize hwhole : (unit ++ raw) ++ rest = whole at hall
    rw [List.append_assoc] at hwhole
    cases hall with
    | nil =>
      obtain ⟨hnil, -⟩ := List.append_eq_nil_iff.mp hwhole
      exact absurd hnil hunit.ne_nil
    | cons hunit' hraw' =>
      obtain ⟨-, rfl⟩ := hunit.unique hunit' hwhole
      exact ih hraw'

/-- What is stuck behind spellings begins with none, so that they are all there are in front. -/
theorem longest (h : Spelled front text) {back : List Char} {e : Error} (hback : Stuck back e) :
    LongestSpelled front (front ++ back) := by
  refine ⟨List.prefix_append _ _, ⟨text, h⟩, fun other text' hother hspelled => ?_⟩
  refine Nat.le_of_not_lt fun hlonger => ?_
  obtain ⟨more, rfl⟩ : front <+: other :=
    List.prefix_of_prefix_length_le (List.prefix_append _ _) hother (Nat.le_of_lt hlonger)
  obtain ⟨tail, htail⟩ := hother
  have hmore : back = more ++ tail := by
    rw [List.append_assoc] at htail
    exact (List.append_cancel_left htail).symm
  obtain ⟨behind, hbehind⟩ := h.behind hspelled
  cases hbehind with
  | nil => simp at hlonger
  | @cons c unit raw _ hunit _ =>
    rw [hmore, List.append_assoc] at hback
    exact hunit.not_stuck _ e hback

theorem decodeFrom_append (h : Spelled front text) {steps : Nat}
    (hsteps : (front ++ rest).length ≤ steps) :
    ∃ left, rest.length ≤ left ∧
      decodeFrom steps (front ++ rest) = (decodeFrom left rest).map (text ++ ·) := by
  induction h generalizing steps with
  | nil =>
    refine ⟨steps, hsteps, ?_⟩
    cases hdecode : decodeFrom steps rest with
    | ok text => exact hdecode
    | error e => exact hdecode
  | @cons c unit raw text hunit hraw ih =>
    have hpos : 0 < unit.length := List.length_pos_iff.mpr hunit.ne_nil
    rw [List.append_assoc, List.length_append] at hsteps
    obtain ⟨n, rfl⟩ : ∃ n, steps = n + 1 := ⟨steps - 1, by omega⟩
    obtain ⟨left, hleft, hdecode⟩ := ih (by omega : (raw ++ rest).length ≤ n)
    obtain ⟨c', cs, hcons, hnext⟩ := hunit.next_eq (raw ++ rest)
    refine ⟨left, hleft, ?_⟩
    rw [List.append_assoc, hcons, decodeFrom_cons, hnext, ok_bind, hdecode]
    cases decodeFrom left rest <;> rfl

theorem decode_eq (h : Spelled raw text) : decode raw = .ok text := by
  have hlength : (raw ++ []).length ≤ raw.length := Nat.le_of_eq (by rw [List.append_nil])
  obtain ⟨left, -, hdecode⟩ := h.decodeFrom_append hlength
  have hend : decodeFrom left [] = .ok [] := by cases left <;> rfl
  rw [List.append_nil, hend] at hdecode
  exact hdecode.trans (congrArg Except.ok (List.append_nil text))

/-- Behind spellings, what is stuck is the error. -/
theorem decode_stuck (h : Spelled front text) {back : List Char} {e : Error}
    (hback : Stuck back e) : decode (front ++ back) = .error e := by
  obtain ⟨left, hleft, hdecode⟩ := h.decodeFrom_append (Nat.le_refl (front ++ back).length)
  obtain ⟨c, cs, rfl⟩ : ∃ c cs, back = c :: cs := by
    cases hback <;> exact ⟨_, _, rfl⟩
  obtain ⟨n, rfl⟩ : ∃ n, left = n + 1 := ⟨left - 1, by simp at hleft; omega⟩
  unfold decode
  rw [hdecode, decodeFrom_cons, next_of_stuck hback]
  rfl

end Spelled

theorem decode_eq_ok_iff (raw text : List Char) : decode raw = .ok text ↔ Spelled raw text := by
  refine ⟨fun h => ?_, Spelled.decode_eq⟩
  obtain ⟨front, back, text', rfl, hspelled, rfl | ⟨e, hstuck⟩⟩ := exists_spelled raw
  · rw [List.append_nil] at h ⊢
    rw [hspelled.decode_eq] at h
    cases h
    exact hspelled
  · rw [hspelled.decode_stuck hstuck] at h
    cases h

theorem decode_eq_error_iff (raw : List Char) (e : Error) :
    decode raw = .error e ↔
      ∃ front back, raw = front ++ back ∧ LongestSpelled front raw ∧ Stuck back e := by
  constructor
  · intro h
    obtain ⟨front, back, text, rfl, hspelled, rfl | ⟨e', hstuck⟩⟩ := exists_spelled raw
    · rw [List.append_nil, hspelled.decode_eq] at h
      cases h
    · rw [hspelled.decode_stuck hstuck] at h
      cases h
      exact ⟨front, back, rfl, hspelled.longest hstuck, hstuck⟩
  · rintro ⟨front, back, rfl, hfront, hstuck⟩
    obtain ⟨text, hspelled⟩ := hfront.spelled
    exact hspelled.decode_stuck hstuck

/-- The law of escapes: a text is decoded exactly if it is made of spellings, to the characters
that they spell. Otherwise its longest front part that is made of spellings leaves a text that is
stuck, and how it is stuck is the error. -/
theorem decode_reads_spellings (raw : List Char) :
    (∀ text, decode raw = .ok text ↔ Spelled raw text) ∧
    ∀ e, decode raw = .error e ↔
      ∃ front back, raw = front ++ back ∧ LongestSpelled front raw ∧ Stuck back e :=
  ⟨decode_eq_ok_iff raw, decode_eq_error_iff raw⟩

end Descent.Json.Escape
