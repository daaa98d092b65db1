import Descent.Proofs.CorrectPrefix
import Descent.Proofs.Rejection

/-!
Texts in the encoding that escapes as little as it can: the quote, the backslash and the controls
below the space, and nothing else. The pattern for texts leaves out all controls, also those from
`U+007F` to `U+009F`, which this encoding leaves as they are. A text without these is read back
from its encoding; any other one is rejected at the first of them.
-/
namespace Descent.Json

open Script

/-- A control that is encoded as itself. -/
def isLateControl (c : Char) : Bool := 0x7f ≤ c.toNat && c.toNat ≤ 0x9f

def hexDigit (upper : Bool) (n : Nat) : Char :=
  if upper then n.digitChar.toUpper else n.digitChar

def encodeChar (upper : Bool) (c : Char) : List Char :=
  if c = '"' || c = '\\' then ['\\', c]
  else if c.toNat < 0x20 then
    ['\\', 'u', '0', '0', hexDigit upper (c.toNat / 16), hexDigit upper (c.toNat % 16)]
  else [c]

def encode (upper : Bool) (text : List Char) : List Char := text.flatMap (encodeChar upper)

theorem isLateControl_iff (c : Char) :
    isLateControl c = true ↔ 0x7f ≤ c.toNat ∧ c.toNat ≤ 0x9f := by
  simp [isLateControl]

/-- Late controls are none of the characters that have an escape in this encoding. -/
theorem encodeChar_late (upper : Bool) {c : Char} (h : isLateControl c = true) :
    encodeChar upper c = [c] := by
  obtain ⟨hlow, -⟩ := (isLateControl_iff c).mp h
  have hmarks : ∀ d ∈ ['"', '\\'], d.toNat < 0x7f := Text.forall_of_all (by decide)
  have hnot : ∀ d ∈ ['"', '\\'], c ≠ d := by
    rintro d hd rfl
    exact absurd (hmarks c hd) (by omega)
  rw [encodeChar, if_neg, if_neg (by omega)]
  simp [hnot '"' (by decide), hnot '\\' (by decide)]

/-- The document that consists of a text in this encoding. -/
def encoded (upper : Bool) (text : List Char) : List Char := '"' :: (encode upper text ++ ['"'])

section Pieces

theorem control_contains (c : Char) :
    Text.Category.control.chars.contains c = (decide (c.toNat < 0x20) || isLateControl c) := by
  have hranges : Text.Category.control.chars.ranges = [(0, 0x1f), (0x7f, 0x9f)] := by
    decide +kernel
  unfold Text.CharSet.contains isLateControl
  rw [hranges, Bool.eq_iff_iff]
  simp only [Text.Intervals.within, Bool.and_eq_true, Bool.or_eq_true, decide_eq_true_eq,
    Bool.or_false]
  omega

theorem hexValue?_hexDigit (upper : Bool) {n : Nat} (h : n < 16) :
    Text.hexValue? (hexDigit upper n) = some n :=
  (by decide : ∀ upper, ∀ n < 16, Text.hexValue? (hexDigit upper n) = some n) upper n h

def controlQuad (upper : Bool) (n : Nat) (h : n < 0x20) : Quad where
  first := ⟨'0', 0, rfl⟩
  second := ⟨'0', 0, rfl⟩
  third := ⟨hexDigit upper (n / 16), n / 16, hexValue?_hexDigit upper (by omega)⟩
  fourth := ⟨hexDigit upper (n % 16), n % 16, hexValue?_hexDigit upper (by omega)⟩

theorem controlQuad_code (upper : Bool) (n : Nat) (h : n < 0x20) :
    (controlQuad upper n h).code = n := by
  change ((0 * 16 + 0) * 16 + n / 16) * 16 + n % 16 = n
  omega

/-- A character that is no late control is encoded by a piece that stands for it. -/
theorem exists_piece_of_encodeChar (upper : Bool) {c : Char} (h : isLateControl c = false) :
    ∃ p : Piece, p.text = encodeChar upper c ∧ p.char = c := by
  by_cases hmark : c = '"' ∨ c = '\\'
  · have hshort : (c, c) ∈ shortEscapes := by
      rcases hmark with rfl | rfl
      · decide
      · decide
    refine ⟨.short c c hshort, ?_, rfl⟩
    rw [encodeChar, if_pos (by simpa using hmark)]
    rfl
  · have hunmarked : ¬ (decide (c = '"') || decide (c = '\\')) = true := by simpa using hmark
    by_cases hlow : c.toNat < 0x20
    · have hcode := controlQuad_code upper c.toNat hlow
      refine ⟨.unicode (controlQuad upper c.toNat hlow) ?_ ?_, ?_, ?_⟩
      · rw [hcode, Escape.isHighSurrogate]
        simp only [Bool.and_eq_false_iff, decide_eq_false_iff_not]
        omega
      · rw [hcode, Escape.isLowSurrogate]
        simp only [Bool.and_eq_false_iff, decide_eq_false_iff_not]
        omega
      · rw [encodeChar, if_neg hunmarked, if_pos hlow]
        rfl
      · rw [Piece.char, hcode, Char.ofNat_toNat]
    · obtain ⟨hquote, hbackslash⟩ := not_or.mp hmark
      have hplain : isPlain c = true := by
        rw [isPlain_iff, control_contains, h, Bool.or_false]
        exact ⟨hbackslash, hquote, decide_eq_false hlow⟩
      refine ⟨.plain c hplain, ?_, rfl⟩
      rw [encodeChar, if_neg hunmarked, if_neg hlow]
      rfl

theorem exists_pieces_of_encode (upper : Bool) {text : List Char}
    (h : ∀ c ∈ text, isLateControl c = false) :
    ∃ pieces : List Piece, pieces.flatMap Piece.text = encode upper text ∧
      pieces.map Piece.char = text := by
  induction text with
  | nil => exact ⟨[], rfl, rfl⟩
  | cons c text ih =>
    obtain ⟨p, hp, hchar⟩ := exists_piece_of_encodeChar upper (h c List.mem_cons_self)
    obtain ⟨pieces, hpieces, hchars⟩ := ih fun d hd => h d (List.mem_cons_of_mem _ hd)
    refine ⟨p :: pieces, ?_, ?_⟩
    · rw [List.flatMap_cons, hp, hpieces]
      rfl
    · rw [List.map_cons, hchar, hchars]

end Pieces

section Unclosed

variable {room : Nat} {s : Scanner} {rest : List Char}

/-- The rule for texts in quotes fails behind the last stroke, if no quote stands there. -/
theorem stringBody_unclosed (hs : s.Ample room) (hadmits : s.depth + 1 ≤ s.limits.maxDepth)
    (strokes : List Stroke) {text : List Char}
    (hdecode : Escape.decode (strokes.flatMap Stroke.text) = .ok text)
    (hend : strokeNode.munch rest = none) {reason : Reason}
    (hquote : (Token.literal "\"").reading rest = .error reason)
    (hrest : s.rest = '"' :: (strokes.flatMap Stroke.text ++ rest)) :
    (stringBody.run grammar.kindOf (grammar.run room) s).FailsWith
      (· = unclosed (s.location.advance ('"' :: strokes.flatMap Stroke.text)) reason) := by
  obtain ⟨v, honward, hvRest, hlocation, -, hrun⟩ :=
    stringBody_reads (hs.allows hadmits) strokes hend hrest
  have hread : (Token.literal "\"").reading v.rest = .error reason := by
    rw [hvRest]
    exact hquote
  have hadmits' : v.depth + 1 ≤ v.limits.maxDepth := by
    rw [honward.frame.depth, honward.frame.limits]
    exact hadmits
  obtain ⟨w, hclose, hw, hwRest⟩ :=
    Grammar.call_refused_for (g := grammar) (honward.frame.ample hs) hadmits' hread .parse
  have hfailed :
      (closeText (strokes.flatMap Stroke.text)).run grammar.kindOf (grammar.run room) v =
        .finished (.error ⟨w.location, "invalid character in string literal", w.lastFailure⟩)
          w := by
    rw [closeText, hdecode]
    exact run_call hclose
  refine ⟨_, w, hrun.trans hfailed, ?_⟩
  rw [Scanner.lastFailure_of_call hclose, hw.location_eq hwRest, hlocation]
  rfl

/-- So does a document that begins like this, however it goes on. -/
theorem parseText_unclosed (strokes : List Stroke) {text : List Char}
    (hdecode : Escape.decode (strokes.flatMap Stroke.text) = .ok text)
    (hend : strokeNode.munch rest = none) {reason : Reason}
    (hquote : (Token.literal "\"").reading rest = .error reason) {input : String}
    (hinput : input.toList = '"' :: (strokes.flatMap Stroke.text ++ rest)) :
    parseText input = .error (.fault (.failure (unclosed
      (Position.start.advance ('"' :: strokes.flatMap Stroke.text)) reason))) := by
  have hvisible : ∃ c ∈ input.toList, Text.isBlank c = false := by
    rw [hinput]
    exact ⟨'"', List.mem_cons_self, Text.isBlank_eq_false (by decide) (by decide)⟩
  obtain ⟨f, hrejected, rfl⟩ := parseText_of_failsWith
    (P := (· = unclosed (Position.start.advance ('"' :: strokes.flatMap Stroke.text)) reason))
    hvisible fun levels s hs hlevel hlimit hrest hplace => by
      have hbegin : s.rest =
          Blanks.none.text ++ '"' :: (strokes.flatMap Stroke.text ++ rest) := hrest.trans hinput
      have hallows : s.Allows levels (0 + 1) := hs.allows (by rw [hlevel, hlimit]; decide)
      obtain ⟨u, honward, hu, hvalue⟩ :=
        valueBody_text hbegin (avoids_mark (by decide) _) hallows rfl
      have huPlace : (u.entered []).location = Position.start :=
        (honward.location_eq (hu.trans hbegin.symm)).trans hplace
      have huLevel : u.depth = 1 := honward.frame.depth.trans hlevel
      have huLimit : u.limits.maxDepth = 512 := by rw [honward.frame.limits, hlimit]
      rw [hvalue]
      refine Grammar.parse_failsWith (g := grammar) (c := .rule .string) (honward.frame.ample hs)
        (by rw [huLevel, huLimit]; decide) (fun levels' hs' hdown' => ?_) _
      have hinside : (u.entered []).limits.maxDepth = 512 := huLimit
      have hunclosed := stringBody_unclosed hs' (by rw [hdown', huLevel, hinside]; decide)
        strokes hdecode hend hquote hu
      rwa [huPlace] at hunclosed
  exact hrejected

end Unclosed

theorem parseText_encoded (upper : Bool) {text : List Char}
    (h : ∀ c ∈ text, isLateControl c = false) :
    parseText (String.ofList (encoded upper text)) = .ok (.text (String.ofList text)) := by
  obtain ⟨pieces, hpieces, hchars⟩ := exists_pieces_of_encode upper h
  let d : Document := ⟨.none, .text ⟨pieces⟩, .none⟩
  have hspelling : d.spelling = encoded upper text := by
    change [] ++ ('"' :: (pieces.flatMap Piece.text ++ ['"']) ++ []) = _
    rw [hpieces, List.nil_append, List.append_nil]
    rfl
  have hvalue : d.root.value = .text (String.ofList text) := by
    rw [← hchars]
    rfl
  have hneed : d.root.need 1 ≤ 512 := by
    change 3 ≤ 512
    decide
  have hparse := d.parseText_eq trivial hneed
  rw [hspelling, hvalue] at hparse
  exact hparse

/-- A late control is no stroke, nor does it close a text. -/
theorem lateControl_refused {c : Char} (h : isLateControl c = true) (rest : List Char) :
    strokeNode.munch (c :: rest) = none ∧
      (Token.literal "\"").reading (c :: rest) = .error (.literalMismatch "\"") := by
  obtain ⟨hcode, -⟩ := (isLateControl_iff c).mp h
  have hnot : ∀ d : Char, d.toNat < 0x7f → c ≠ d := by
    rintro d hd rfl
    omega
  constructor
  · rw [Option.eq_none_iff_forall_ne_some]
    intro behind hbehind
    obtain ⟨stroke, htext⟩ := (munch_strokeNode_iff _ _).mp hbehind
    cases stroke with
    | plain d hplain =>
      obtain rfl : c = d := (List.cons.inj htext).1
      obtain ⟨-, -, hcontrol⟩ := (isPlain_iff c).mp hplain
      rw [control_contains, h, Bool.or_true] at hcontrol
      cases hcontrol
    | short => exact hnot '\\' (by decide) (List.cons.inj htext).1
    | unicode => exact hnot '\\' (by decide) (List.cons.inj htext).1
  · have hlong : Text.atLeast (Text.width "\"".toList) (c :: rest) = true := by
      rw [Text.atLeast_eq_true_iff, Text.width_cons]
      exact Nat.le_trans c.utf8Size_pos (Nat.le_add_right _ _)
    have hother : "\"".toList.isPrefixOf (c :: rest) = false := by
      change ('"' == c && true) = false
      rw [Bool.and_true]
      exact beq_eq_false_iff_ne.mpr (hnot '"' (by decide)).symm
    simp only [Token.reading, hlong, hother, Bool.not_true, Bool.not_false, if_true,
      Bool.false_eq_true, if_false]

/-- The first late control of a text is where its encoding is rejected. -/
theorem parseText_encoded_late (upper : Bool) {front : List Char} {c : Char}
    (hfront : ∀ d ∈ front, isLateControl d = false) (hc : isLateControl c = true)
    (behind : List Char) :
    parseText (String.ofList (encoded upper (front ++ c :: behind))) =
      .error (.fault (.failure (unclosed (Position.start.advance ('"' :: encode upper front))
        (.literalMismatch "\"")))) := by
  obtain ⟨pieces, hpieces, -⟩ := exists_pieces_of_encode upper hfront
  have hdecode := Escape.decode_pieces pieces
  rw [strokes_of_pieces] at hpieces hdecode
  have hself := encodeChar_late upper hc
  obtain ⟨hend, hquote⟩ := lateControl_refused hc (encode upper behind ++ ['"'])
  rw [← hpieces]
  refine parseText_unclosed _ hdecode hend hquote ?_
  rw [String.toList_ofList, hpieces, encoded, encode, encode, List.flatMap_append,
    List.flatMap_cons, hself]
  simp [encode]

/-- The encoding of a text without late controls is read back as the text, and any other one is
rejected at the first of them, for the closing quote does not stand there. -/
theorem encodings_are_read_back (upper : Bool) (text : String) :
    parseText (String.ofList (encoded upper text.toList)) =
      if text.toList.all (!isLateControl ·) then .ok (.text text)
      else .error (.fault (.failure (unclosed
        (Position.start.advance
          ('"' :: encode upper (text.toList.takeWhile (!isLateControl ·))))
        (.literalMismatch "\"")))) := by
  split
  · next hall =>
    have hnone : ∀ c ∈ text.toList, isLateControl c = false := by
      intro c hc
      simpa using List.all_eq_true.mp hall c hc
    rw [parseText_encoded upper hnone, String.ofList_toList]
  · next hsome =>
    have hpassed : ∀ c ∈ text.toList.takeWhile (!isLateControl ·), isLateControl c = false := by
      intro c hc
      simpa using List.all_eq_true.mp List.all_takeWhile c hc
    have hwhole := List.takeWhile_append_dropWhile (p := (!isLateControl ·)) (l := text.toList)
    cases hdrop : text.toList.dropWhile (!isLateControl ·) with
    | nil =>
      rw [hdrop, List.append_nil] at hwhole
      rw [← hwhole] at hsome
      exact absurd List.all_takeWhile hsome
    | cons c behind =>
      have hc := Text.avoids_dropWhile (!isLateControl ·) text.toList c (by rw [hdrop]; rfl)
      have hlate : isLateControl c = true := by simpa using hc
      rw [← parseText_encoded_late upper hpassed hlate behind, ← hdrop, hwhole]

/-- The last of the controls of ASCII is not escaped by the encoding, and not accepted raw. -/
theorem delete_is_not_read_back :
    parseText (String.ofList (encoded false ['\x7f'])) ≠
      .ok (.text (String.ofList ['\x7f'])) := by
  have hfront : ∀ d ∈ [], isLateControl d = false := fun d hd => absurd hd List.not_mem_nil
  have hdelete : isLateControl '\x7f' = true := by decide
  have hparse := parseText_encoded_late false hfront hdelete []
  intro hback
  rw [List.nil_append, hback] at hparse
  cases hparse

end Descent.Json
