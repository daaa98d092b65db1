import Descent.Proofs.Json.Escapes

/-!
The tokens of the data format. Blanks take all that stand next. The pattern for the body of a text
takes strokes, up to what begins none, and the one for numbers takes a numeral in front of what
does not go on with it.
-/
namespace Descent.Json

open Script
open Text (Avoids CharSet)
open Decimal (DigitRun digitsNode fractionNode fractionText)
open Regex (Mark Node NamedSet)

section Blanks

def blankSet : CharSet :=
  .union Text.Category.spaceSeparator.chars (.ofChars ['\t', '\r', '\n'])

def blankNode : Node := .star [0, 0, 1] true (.oneOf blankSet)

theorem blanks_munches : blankPattern.Munches blankNode :=
  ⟨by decide +kernel, by decide +kernel, by decide +kernel, by decide +kernel⟩

theorem blankSet_contains : blankSet.contains = isSpace := by
  funext c
  rw [blankSet, CharSet.contains_union, CharSet.contains_ofChars]
  rfl

theorem blanks_passes : (Token.pattern blankPattern).Passes isSpace := by
  intro text
  have htext : text.takeWhile isSpace ++ text.dropWhile isSpace = text :=
    List.takeWhile_append_dropWhile
  have hmunch : blankNode.munch (text.takeWhile isSpace ++ text.dropWhile isSpace) =
      some (text.dropWhile isSpace) := by
    rw [htext, blankNode, Node.munch_star_oneOf, blankSet_contains]
  have htakes := Token.takes_pattern blanks_munches hmunch
  rw [htext] at htakes
  exact ⟨_, htakes⟩

/-- The visible characters of ASCII are not skipped. -/
theorem isSpace_eq_false {c : Char} (h : 0x21 ≤ c.toNat) (h' : c.toNat < 0x7f) :
    isSpace c = false := by
  have hranges : blankSet.ranges =
      [(0x09, 0x0a), (0x0d, 0x0d), (0x20, 0x20), (0xa0, 0xa0), (0x1680, 0x1680),
        (0x2000, 0x200a), (0x202f, 0x202f), (0x205f, 0x205f), (0x3000, 0x3000)] := by
    decide +kernel
  rw [← blankSet_contains]
  unfold CharSet.contains
  rw [hranges]
  simp only [Text.Intervals.within, Bool.and_eq_false_iff, Bool.or_eq_false_iff,
    decide_eq_false_iff_not]
  omega

theorem avoids_mark {c : Char} (h : c ∈ ['"', '[', '\x7b', ':', ',', ']', '\x7d'])
    (cs : List Char) : Avoids isSpace (c :: cs) := by
  have hvisible : ∀ c ∈ ['"', '[', '\x7b', ':', ',', ']', '\x7d'],
      0x21 ≤ c.toNat ∧ c.toNat < 0x7f := Text.forall_of_all (by decide)
  obtain ⟨hlow, hhigh⟩ := hvisible c h
  exact Text.avoids_cons (isSpace_eq_false hlow hhigh) cs

variable {room : Nat} {s : Scanner}

/-- Blanks in front of what is none are skipped. -/
theorem skip_blanks {height : Nat} (hs : s.Allows room (height + 1)) (b : Blanks)
    {rest : List Char} (hrest : s.rest = b.text ++ rest) (h : Avoids isSpace rest) :
    ∃ value u, s.call .skip (grammar.kindOf (.token (.pattern blankPattern)))
        (grammar.run room (.token (.pattern blankPattern))) [] = .finished (.ok value) u ∧
      s.Onward u ∧ u.rest = rest :=
  Grammar.skip_passes (g := grammar) blanks_passes hs hrest b.all h

/-- However skipping blanks ends, what was skipped are blanks. -/
theorem blanks_of_run {α : Type} {end' : Except Failure α} {u : Scanner} (hs : s.Fits room)
    {f : Unit → Script Yield α}
    (h : (blanks >>= f).run grammar.kindOf (grammar.run room) s = .finished end' u) :
    ∃ (b : Blanks) (v : Scanner), s.rest = b.text ++ v.rest ∧ s.Onward v ∧
      (f ()).run grammar.kindOf (grammar.run room) v = .finished end' u := by
  obtain ⟨front, v, hfront, hrest⟩ := Grammar.skip_of_run (g := grammar) blanks_passes hs h
  exact ⟨⟨front, hfront⟩, v, hrest⟩

end Blanks

section Texts

def shortSet : CharSet := .ofChars (shortEscapes.map Prod.fst)

def hexSet : CharSet :=
  .union (.interval '0' '9') (.union (.interval 'a' 'f') (.interval 'A' 'F'))

def plainSet : CharSet := .compl (.union (.ofChars ['\\', '"']) Text.Category.control.chars)

def shortNode : Node := .seq (.oneOf (.single '\\')) (.oneOf shortSet)

def unicodeNode : Node :=
  .seq (.oneOf (.single '\\')) (.seq (.oneOf (.single 'u')) (.seq (.oneOf hexSet)
    (.seq (.oneOf hexSet) (.seq (.oneOf hexSet) (.oneOf hexSet)))))

def strokeNode : Node :=
  .choice [0, 1, 1] shortNode (.choice [1, 0, 1, 1] unicodeNode (.oneOf plainSet))

def textNode : Node := .star [0, 0, 1] true strokeNode

theorem text_munches : textPattern.Munches textNode :=
  ⟨by decide +kernel, by decide +kernel, by decide +kernel, by decide +kernel⟩

theorem shortSet_contains (c : Char) :
    shortSet.contains c = true ↔ ∃ d, (c, d) ∈ shortEscapes := by
  rw [shortSet, CharSet.contains_ofChars, List.contains_iff_mem, List.mem_map]
  constructor
  · intro h
    obtain ⟨⟨c, d⟩, hmem, rfl⟩ := h
    exact ⟨d, hmem⟩
  · intro h
    obtain ⟨d, hmem⟩ := h
    exact ⟨(c, d), hmem, rfl⟩

theorem plainSet_contains (c : Char) : plainSet.contains c = isPlain c := by
  rw [plainSet, CharSet.contains_compl, CharSet.contains_union, CharSet.contains_ofChars,
    Bool.eq_iff_iff]
  simp [isPlain, and_assoc]

theorem hexSet_contains (c : Char) :
    hexSet.contains c = true ↔ ∃ d : HexDigit, d.char = c := by
  have hspelt : hexSet.contains c = (Text.hexValue? c).isSome := by
    rw [hexSet, CharSet.contains_union, CharSet.contains_union, CharSet.contains_interval,
      CharSet.contains_interval, CharSet.contains_interval]
    have hle : ∀ d e : Char, d ≤ e ↔ d.toNat ≤ e.toNat := fun _ _ => Iff.rfl
    unfold Text.hexValue?
    split
    · next h => simp_all
    · split
      · next h => simp_all
      · split
        · next h => simp_all
        · next h => simp_all
  rw [hspelt, Option.isSome_iff_exists]
  constructor
  · intro h
    obtain ⟨value, h⟩ := h
    exact ⟨⟨c, value, h⟩, rfl⟩
  · intro h
    obtain ⟨d, rfl⟩ := h
    exact ⟨d.value, d.spells⟩

theorem munch_shortNode_iff (text rest : List Char) :
    shortNode.munch text = some rest ↔
      ∃ letter c, (letter, c) ∈ shortEscapes ∧ text = '\\' :: letter :: rest := by
  simp only [shortNode, Node.munch_seq_eq_some_iff, Node.munch_single_eq_some_iff]
  simp only [Node.munch_oneOf_eq_some_iff, shortSet_contains]
  constructor
  · intro h
    obtain ⟨mid, rfl, letter, ⟨c, hmem⟩, rfl⟩ := h
    exact ⟨letter, c, hmem, rfl⟩
  · intro h
    obtain ⟨letter, c, hmem, rfl⟩ := h
    exact ⟨letter :: rest, rfl, letter, ⟨c, hmem⟩, rfl⟩

theorem munch_unicodeNode_iff (text rest : List Char) :
    unicodeNode.munch text = some rest ↔ ∃ q : Quad, text = '\\' :: 'u' :: (q.text ++ rest) := by
  simp only [unicodeNode, Node.munch_seq_eq_some_iff, Node.munch_single_eq_some_iff]
  simp only [Node.munch_oneOf_eq_some_iff, hexSet_contains]
  constructor
  · intro h
    obtain ⟨-, rfl, -, rfl, -, ⟨-, ⟨d₁, rfl⟩, rfl⟩, -, ⟨-, ⟨d₂, rfl⟩, rfl⟩, -,
      ⟨-, ⟨d₃, rfl⟩, rfl⟩, -, ⟨d₄, rfl⟩, rfl⟩ := h
    exact ⟨⟨d₁, d₂, d₃, d₄⟩, rfl⟩
  · intro h
    obtain ⟨⟨d₁, d₂, d₃, d₄⟩, rfl⟩ := h
    exact ⟨_, rfl, _, rfl, _, ⟨_, ⟨d₁, rfl⟩, rfl⟩, _, ⟨_, ⟨d₂, rfl⟩, rfl⟩, _,
      ⟨_, ⟨d₃, rfl⟩, rfl⟩, _, ⟨d₄, rfl⟩, rfl⟩

theorem munch_strokeNode_iff (text rest : List Char) :
    strokeNode.munch text = some rest ↔ ∃ s : Stroke, text = s.text ++ rest := by
  simp only [strokeNode, Node.munch_choice_eq_some_iff, munch_shortNode_iff,
    munch_unicodeNode_iff, Node.munch_oneOf_eq_some_iff, plainSet_contains]
  constructor
  · intro h
    rcases h with ⟨letter, c, hmem, rfl⟩ | ⟨-, ⟨q, rfl⟩ | ⟨-, c, hc, rfl⟩⟩
    · exact ⟨.short letter c hmem, rfl⟩
    · exact ⟨.unicode q, rfl⟩
    · exact ⟨.plain c hc, rfl⟩
  · intro h
    obtain ⟨s, rfl⟩ := h
    cases s with
    | short letter c hmem => exact Or.inl ⟨letter, c, hmem, rfl⟩
    | unicode q =>
      refine Or.inr ⟨?_, Or.inl ⟨q, rfl⟩⟩
      rw [Option.eq_none_iff_forall_ne_some]
      intro rest' hrest'
      obtain ⟨letter, c, hmem, htext⟩ := (munch_shortNode_iff _ _).mp hrest'
      obtain rfl : 'u' = letter := (List.cons.inj (List.cons.inj htext).2).1
      exact absurd hmem (by simp [shortEscapes])
    | plain c hc =>
      have hbackslash := ((isPlain_iff c).mp hc).1
      refine Or.inr ⟨?_, Or.inr ⟨?_, c, hc, rfl⟩⟩
      · rw [Option.eq_none_iff_forall_ne_some]
        intro rest' hrest'
        obtain ⟨letter, d, hmem, htext⟩ := (munch_shortNode_iff _ _).mp hrest'
        exact hbackslash (List.cons.inj htext).1
      · rw [Option.eq_none_iff_forall_ne_some]
        intro rest' hrest'
        obtain ⟨q, htext⟩ := (munch_unicodeNode_iff _ _).mp hrest'
        exact hbackslash (List.cons.inj htext).1

theorem stroke_text_ne_nil (s : Stroke) : s.text ≠ [] := by
  cases s <;> exact List.cons_ne_nil _ _

/-- A text ends where no stroke begins, as at a quote. -/
theorem munch_strokeNode_quote (rest : List Char) : strokeNode.munch ('"' :: rest) = none := by
  rw [Option.eq_none_iff_forall_ne_some]
  intro rest' hrest'
  obtain ⟨s, htext⟩ := (munch_strokeNode_iff _ _).mp hrest'
  cases s with
  | plain c hc => exact ((isPlain_iff c).mp hc).2.1 (List.cons.inj htext).1.symm
  | short => exact absurd (List.cons.inj htext).1 (by decide)
  | unicode => exact absurd (List.cons.inj htext).1 (by decide)

/-- Strokes are taken as a whole in front of what begins none. -/
theorem takes_strokes_before (strokes : List Stroke) {rest : List Char}
    (hrest : strokeNode.munch rest = none) :
    (Token.pattern textPattern).Takes (strokes.flatMap Stroke.text ++ rest)
      (String.ofList (strokes.flatMap Stroke.text)) rest := by
  refine Token.takes_pattern text_munches ?_
  have hlong : strokes.length ≤ (strokes.flatMap Stroke.text ++ rest).length := by
    have hle := Text.length_le_flatMap stroke_text_ne_nil strokes
    rw [List.length_append]
    omega
  exact congrArg some (Regex.munchAll_flatMap
    (fun s rest => (munch_strokeNode_iff _ _).mpr ⟨s, rfl⟩) strokes hrest hlong)

theorem strokes_of_takes {text rest : List Char} {value : String}
    (h : (Token.pattern textPattern).Takes text value rest) :
    ∃ strokes : List Stroke, text = strokes.flatMap Stroke.text ++ rest ∧
      value.toList = strokes.flatMap Stroke.text := by
  obtain ⟨hmunch, front, rfl, rfl⟩ := Token.munch_of_takes text_munches h
  obtain ⟨strokes, hstrokes⟩ := Regex.exists_flatMap_of_munchAll
    (fun text rest => (munch_strokeNode_iff text rest).mp) (front ++ rest).length (front ++ rest)
  have hrest : Regex.munchAll strokeNode.munch (front ++ rest).length (front ++ rest) = rest :=
    Option.some.inj hmunch
  rw [hrest] at hstrokes
  refine ⟨strokes, hstrokes, ?_⟩
  rw [String.toList_ofList]
  exact List.append_cancel_right hstrokes

end Texts

section Numbers

def wholeNode : Node :=
  .choice [0, 1, 1] (.oneOf (.single '0'))
    (.seq (.oneOf (.interval '1' '9'))
      (.star [0, 0, 1, 1, 0, 1, 1] true (.oneOf NamedSet.asciiDigits)))

def signNode : Node :=
  .choice [0, 0, 0, 1, 0, 1, 1, 1, 1, 1] (.oneOf (.ofChars ['+', '-'])) .empty

def powerNode : Node :=
  .choice [0, 0, 1, 1, 1, 1]
    (.seq (.oneOf (.ofChars ['e', 'E']))
      (.seq signNode (digitsNode [0, 0, 1, 1, 0, 1, 1, 1, 1, 1]))) .empty

def numberNode : Node :=
  .seq (.choice [0, 0, 0, 1] (.oneOf (.single '-')) .empty)
    (.seq wholeNode
      (.seq (fractionNode [0, 0, 0, 1, 1, 1] [0, 0, 1, 0, 1, 0, 1, 1, 1]) powerNode))

theorem number_munches : numberPattern.Munches numberNode :=
  ⟨by decide +kernel, by decide +kernel, by decide +kernel, by decide +kernel⟩

/-- A text that begins with neither of the marks of a power of ten. -/
def isPowerMark (c : Char) : Bool := ['e', 'E'].contains c

theorem isDigit_iff (c : Char) :
    c.isDigit = true ↔ c = '0' ∨ (CharSet.interval '1' '9').contains c = true := by
  rw [CharSet.contains_interval, Char.isDigit_iff_toNat, ← Char.toNat_inj]
  simp only [Bool.and_eq_true, decide_eq_true_eq]
  change 48 ≤ c.toNat ∧ c.toNat ≤ 57 ↔ c.toNat = 48 ∨ 49 ≤ c.toNat ∧ c.toNat ≤ 57
  omega

theorem munch_wholeNode (d : DigitRun)
    (hleading : d.text = ['0'] ∨ d.text.head? ≠ some '0') {rest : List Char}
    (h : Avoids Char.isDigit rest) : wholeNode.munch (d.text ++ rest) = some rest := by
  simp only [wholeNode, Node.munch_choice_eq_some_iff, Node.munch_seq_eq_some_iff,
    Node.munch_single_eq_some_iff]
  rcases hleading with hzero | hnonzero
  · exact Or.inl (by rw [hzero]; rfl)
  · obtain ⟨c, cs, hdigits⟩ := List.exists_cons_of_ne_nil d.nonempty
    have hc : c ≠ '0' := by
      rintro rfl
      exact hnonzero (by rw [hdigits]; rfl)
    have hdigit := d.all c (by rw [hdigits]; exact List.mem_cons_self)
    refine Or.inr ⟨?_, cs ++ rest, ?_, ?_⟩
    · refine Node.munch_oneOf_eq_none ?_
      rw [hdigits, CharSet.contains_single]
      refine Text.avoids_cons ?_ _
      exact beq_eq_false_iff_ne.mpr hc
    · exact (Node.munch_oneOf_eq_some_iff _ _ _).mpr
        ⟨c, ((isDigit_iff c).mp hdigit).resolve_left hc, by rw [hdigits]; rfl⟩
    · rw [Node.munch_star_oneOf, Decimal.asciiDigits_contains]
      have hothers : ∀ e ∈ cs, e.isDigit = true :=
        fun e he => d.all e (by rw [hdigits]; exact List.mem_cons_of_mem _ he)
      exact congrArg some (Text.dropWhile_append hothers h)

theorem whole_of_munch {text rest : List Char} (h : wholeNode.munch text = some rest) :
    ∃ d : DigitRun, (d.text = ['0'] ∨ d.text.head? ≠ some '0') ∧ text = d.text ++ rest := by
  simp only [wholeNode, Node.munch_choice_eq_some_iff, Node.munch_seq_eq_some_iff,
    Node.munch_single_eq_some_iff] at h
  rcases h with rfl | ⟨hzero, mid, hmid, hrest⟩
  · exact ⟨⟨['0'], List.cons_ne_nil _ _, Text.forall_of_all (by decide)⟩, Or.inl rfl, rfl⟩
  · obtain ⟨c, hc, rfl⟩ := (Node.munch_oneOf_eq_some_iff _ _ _).mp hmid
    rw [Node.munch_star_oneOf, Decimal.asciiDigits_contains] at hrest
    cases hrest
    have hdigit : c.isDigit = true := (isDigit_iff c).mpr (Or.inr hc)
    refine ⟨⟨c :: mid.takeWhile Char.isDigit, List.cons_ne_nil _ _, ?_⟩, Or.inr ?_, ?_⟩
    · intro d hd
      rcases List.mem_cons.mp hd with rfl | hmem
      · exact hdigit
      · exact List.all_eq_true.mp List.all_takeWhile d hmem
    · intro hhead
      obtain rfl : c = '0' := Option.some.inj hhead
      cases hc
    · change c :: mid = c :: (mid.takeWhile Char.isDigit ++ mid.dropWhile Char.isDigit)
      rw [List.takeWhile_append_dropWhile]

theorem munch_power (p : Power) {rest : List Char} (hdigit : Avoids Char.isDigit rest) :
    powerNode.munch (p.text ++ rest) = some rest := by
  simp only [powerNode, Node.munch_choice_eq_some_iff, Node.munch_seq_eq_some_iff]
  left
  refine ⟨p.sign.toList ++ (p.digits.text ++ rest), ?_, p.digits.text ++ rest, ?_, ?_⟩
  · refine (Node.munch_oneOf_eq_some_iff _ _ _).mpr ⟨p.mark, ?_, ?_⟩
    · rw [CharSet.contains_ofChars]
      exact List.contains_iff_mem.mpr p.mark_mem
    · simp [Power.text]
  · refine Node.munch_optional _ p.sign (fun c hc => ?_) (p.digits.avoids (fun c hc => ?_) rest)
    · rw [CharSet.contains_ofChars]
      exact List.contains_iff_mem.mpr (p.sign_mem c hc)
    · have hsigns : ∀ d ∈ ['+', '-'], d.isDigit = false := Text.forall_of_all (by decide)
      rw [CharSet.contains_ofChars] at hc
      exact hsigns c (List.contains_iff_mem.mp hc)
  · exact (Decimal.munch_digits_iff _ _ _).mpr ⟨p.digits, rfl, hdigit⟩

theorem munch_powerNode (power : Option Power) {rest : List Char}
    (hdigit : Avoids Char.isDigit rest) (hmark : Avoids isPowerMark rest) :
    powerNode.munch ((power.map Power.text).getD [] ++ rest) = some rest := by
  cases power with
  | none =>
    have hset : (CharSet.ofChars ['e', 'E']).contains = isPowerMark := by
      funext c
      exact CharSet.contains_ofChars _ c
    have hnone : (Node.oneOf (.ofChars ['e', 'E'])).munch rest = none :=
      Node.munch_oneOf_eq_none (by rw [hset]; exact hmark)
    change (((Node.oneOf (.ofChars ['e', 'E'])).munch rest).bind _).or (some rest) = some rest
    rw [hnone]
    rfl
  | some p => exact munch_power p hdigit

theorem power_of_munch {text rest : List Char} (h : powerNode.munch text = some rest) :
    ∃ power : Option Power, text = (power.map Power.text).getD [] ++ rest := by
  simp only [powerNode, Node.munch_choice_eq_some_iff, Node.munch_seq_eq_some_iff] at h
  rcases h with ⟨mid, hmark, behind, hsign, hdigits⟩ | ⟨-, hnone⟩
  · obtain ⟨mark, hmem, rfl⟩ := (Node.munch_oneOf_eq_some_iff _ _ _).mp hmark
    obtain ⟨sign, hsigns, rfl⟩ := Node.optional_of_munch hsign
    obtain ⟨digits, rfl, -⟩ := (Decimal.munch_digits_iff _ _ _).mp hdigits
    rw [CharSet.contains_ofChars] at hmem
    have hsigns' : ∀ c ∈ sign, c ∈ ['+', '-'] := by
      intro c hc
      have hmem' := hsigns c hc
      rw [CharSet.contains_ofChars] at hmem'
      exact List.contains_iff_mem.mp hmem'
    refine ⟨some ⟨mark, sign, digits, List.contains_iff_mem.mp hmem, hsigns'⟩, ?_⟩
    simp [Power.text]
  · cases hnone
    exact ⟨none, rfl⟩

/-- A numeral is taken as a whole in front of what does not go on with it. -/
theorem takes_numeral (n : Numeral) {rest : List Char} (hdigit : Avoids Char.isDigit rest)
    (hpoint : Avoids (· == '.') rest) (hmark : Avoids isPowerMark rest) :
    (Token.pattern numberPattern).Takes (n.text ++ rest) (String.ofList n.text) rest := by
  refine Token.takes_pattern number_munches ?_
  have hpower : Avoids Char.isDigit (n.powerText ++ rest) ∧
      Avoids (· == '.') (n.powerText ++ rest) := by
    rcases n.powerMark with hnil | ⟨e, cs, htext, he⟩
    · rw [hnil]
      exact ⟨hdigit, hpoint⟩
    · rw [htext]
      rcases he with rfl | rfl
      · exact ⟨Text.avoids_cons rfl _, Text.avoids_cons rfl _⟩
      · exact ⟨Text.avoids_cons rfl _, Text.avoids_cons rfl _⟩
  have htext : n.text ++ rest = (if n.negative then some '-' else none).toList ++
      (n.whole.text ++ (fractionText n.fraction ++ (n.powerText ++ rest))) := by
    unfold Numeral.text
    cases n.negative <;> simp
  have hsign : Avoids (CharSet.single '-').contains
      (n.whole.text ++ (fractionText n.fraction ++ (n.powerText ++ rest))) := by
    refine n.whole.avoids (fun c hc => ?_) _
    rw [CharSet.contains_single, beq_iff_eq] at hc
    rw [hc]
    rfl
  simp only [numberNode, Node.munch_seq_eq_some_iff]
  rw [htext]
  refine ⟨_, Node.munch_optional _ _ (fun c hc => ?_) hsign, _,
    munch_wholeNode n.whole n.leading (Decimal.avoids_fraction n.fraction hpower.1), _,
    Decimal.munch_fraction _ _ n.fraction hpower.1 hpower.2, munch_powerNode n.power hdigit hmark⟩
  cases hneg : n.negative with
  | false =>
    rw [hneg] at hc
    cases hc
  | true =>
    rw [hneg] at hc
    cases hc
    rw [CharSet.contains_single]
    rfl

theorem numeral_of_takes {text rest : List Char} {value : String}
    (h : (Token.pattern numberPattern).Takes text value rest) :
    ∃ n : Numeral, text = n.text ++ rest ∧ value.toList = n.text := by
  obtain ⟨hmunch, front, rfl, rfl⟩ := Token.munch_of_takes number_munches h
  simp only [numberNode, Node.munch_seq_eq_some_iff] at hmunch
  obtain ⟨behindSign, hsign, behindWhole, hwhole, behindFraction, hfraction, hpower⟩ := hmunch
  obtain ⟨sign, hminus, hfront⟩ := Node.optional_of_munch hsign
  obtain ⟨whole, hleading, rfl⟩ := whole_of_munch hwhole
  obtain ⟨fraction, rfl⟩ := Decimal.fraction_of_munch hfraction
  obtain ⟨power, rfl⟩ := power_of_munch hpower
  have hsigns : (if sign.isSome then ['-'] else []) = sign.toList := by
    cases sign with
    | none => rfl
    | some c =>
      have hc := hminus c rfl
      rw [CharSet.contains_single, beq_iff_eq] at hc
      rw [hc]
      rfl
  let n : Numeral := ⟨sign.isSome, whole, fraction, power, hleading⟩
  have htext : n.text = front := by
    have hwhole' : n.text ++ rest = front ++ rest := by
      rw [hfront]
      simp only [n, Numeral.text, Numeral.powerText, hsigns, List.append_assoc]
    exact List.append_cancel_right hwhole'
  exact ⟨n, by rw [htext], by rw [htext, String.toList_ofList]⟩

/-- What a numeral can begin with. -/
def startsNumeral (c : Char) : Bool := c == '-' || c.isDigit

theorem refuses_numeral {text : List Char} (h : Avoids startsNumeral text) :
    (Token.pattern numberPattern).Refuses text := by
  refine Token.refuses_pattern number_munches ?_
  rw [Option.eq_none_iff_forall_ne_some]
  intro rest hmunch
  simp only [numberNode, Node.munch_seq_eq_some_iff] at hmunch
  obtain ⟨behindSign, hsign, behindWhole, hwhole, -⟩ := hmunch
  obtain ⟨sign, hminus, rfl⟩ := Node.optional_of_munch hsign
  obtain ⟨whole, -, rfl⟩ := whole_of_munch hwhole
  cases sign with
  | none =>
    obtain ⟨c, cs, hdigits⟩ := List.exists_cons_of_ne_nil whole.nonempty
    have hc := whole.all c (by rw [hdigits]; exact List.mem_cons_self)
    have hnot := h c (by rw [hdigits]; rfl)
    rw [startsNumeral, hc, Bool.or_true] at hnot
    cases hnot
  | some c =>
    have hc := hminus c rfl
    rw [CharSet.contains_single, beq_iff_eq] at hc
    subst hc
    exact absurd (h '-' rfl) (by decide)

end Numbers

section Rounds

/-- What is left of a round behind the colon: the item, and more rounds if a comma follows. -/
def itemFor (rounds : Nat) (members : Object) (start : Position) (key : String) :
    Script Yield Object := do
  let item ← parse (.rule Rule.value)
  match members.insert key item with
  | .error (key, _) => duplicateKey start key
  | .ok members =>
    blanks
    if ← succeeds (lit ",") then membersFrom rounds members else return members

theorem membersFrom_succ (rounds : Nat) (members : Object) :
    membersFrom (rounds + 1) members =
      (do
        blanks
        let start ← get .location
        let key ← parse (.rule Rule.string)
        if members.contains key then duplicateKey start key
        else
          blanks
          let _ ← parse (lit ":")
          itemFor rounds members start key) := rfl

end Rounds

end Descent.Json
