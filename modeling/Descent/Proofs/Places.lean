import Descent.Proofs.Lexemes
import Mathlib.Data.List.Induction

/-!
Lines and columns as names of places. A place counts bytes, line breaks and characters, and a line
break sets the last of these back. Still the three agree on one text: moving over a character puts
line and column forward in lexicographic order (`before_step`), and so does moving over any text
that is not empty (`before_advance`). Of two borders of characters in one text, one is reached
from the other, so that line and column tell them apart and order them as their offsets do.
-/
namespace Descent

namespace Text

/-- Of two ways to cut a text in two, one cuts it further on, unless they are the same. -/
theorem cut_cases {front back front' back' : List Char} (h : front ++ back = front' ++ back') :
    front = front' ∨ (∃ mid, mid ≠ [] ∧ front' = front ++ mid) ∨
      ∃ mid, mid ≠ [] ∧ front = front' ++ mid := by
  rcases List.append_eq_append_iff.mp h with ⟨mid, hfront, -⟩ | ⟨mid, hfront, -⟩
  · by_cases hmid : mid = []
    · left
      rw [hfront, hmid, List.append_nil]
    · exact Or.inr (Or.inl ⟨mid, hmid, hfront⟩)
  · by_cases hmid : mid = []
    · left
      rw [hfront, hmid, List.append_nil]
    · exact Or.inr (Or.inr ⟨mid, hmid, hfront⟩)

theorem width_pos {text : List Char} (h : text ≠ []) : 0 < width text := by
  have hlength := length_le_width text
  have hpos := List.length_pos_iff.mpr h
  omega

/-- A text is cut at an offset exactly if it is a border of characters. -/
theorem isValid_iff_split (text : String) (offset : Nat) :
    String.Pos.Raw.IsValid text ⟨offset⟩ ↔ (split offset text.toList).isSome = true := by
  constructor
  · intro h
    obtain ⟨front, back, htext, hoffset⟩ := String.Pos.Raw.isValid_iff_exists_append.mp h
    have hwidth : width front.toList = offset := by
      rw [String.Pos.Raw.ext_iff, String.byteIdx_rawEndPos, ← String.ofList_toList (s := front),
        utf8ByteSize_ofList] at hoffset
      exact hoffset.symm
    have hcut := (split_eq_some_iff offset text.toList front.toList back.toList).mpr
      ⟨by rw [htext, String.toList_append], hwidth⟩
    rw [hcut]
    rfl
  · intro h
    obtain ⟨⟨front, back⟩, hcut⟩ := Option.isSome_iff_exists.mp h
    obtain ⟨htext, rfl⟩ := (split_eq_some_iff _ _ _ _).mp hcut
    exact isValid_width htext

/-- Digits are told from what stands behind them. -/
theorem digits_append_inj {digits digits' rest rest' : List Char}
    (hdigits : ∀ c ∈ digits, c.isDigit = true) (hdigits' : ∀ c ∈ digits', c.isDigit = true)
    (hrest : Avoids Char.isDigit rest) (hrest' : Avoids Char.isDigit rest')
    (h : digits ++ rest = digits' ++ rest') : digits = digits' ∧ rest = rest' := by
  have hbehind : rest = rest' := by
    rw [← dropWhile_append hdigits hrest, h, dropWhile_append hdigits' hrest']
  subst hbehind
  exact ⟨List.append_cancel_right h, rfl⟩

theorem isDigit_of_mem_toString {n : Nat} {c : Char} (h : c ∈ (toString n).toList) :
    c.isDigit = true := by
  rw [Nat.toString_eq_ofList_toDigits, String.toList_ofList] at h
  exact Nat.isDigit_of_mem_toDigits (by decide) (by decide) h

theorem toString_injective {n m : Nat} (h : (toString n).toList = (toString m).toList) :
    n = m := by
  rw [Nat.toString_eq_ofList_toDigits, Nat.toString_eq_ofList_toDigits, String.toList_ofList,
    String.toList_ofList] at h
  calc
    n = Nat.ofDigitChars 10 (Nat.toDigits 10 n) 0 := Nat.ofDigitChars_ten_toDigits.symm
    _ = Nat.ofDigitChars 10 (Nat.toDigits 10 m) 0 := by rw [h]
    _ = m := Nat.ofDigitChars_ten_toDigits

end Text

namespace Position

variable {p q r : Position}

/-- On an earlier line, or earlier on the same line. -/
def Before (p q : Position) : Prop :=
  p.line < q.line ∨ p.line = q.line ∧ p.column < q.column

theorem Before.trans (h : p.Before q) (h' : q.Before r) : p.Before r := by
  unfold Before at *
  omega

theorem Before.asymm (h : p.Before q) : ¬ q.Before p := by
  unfold Before at *
  omega

theorem before_step (p : Position) (c : Char) : p.Before (p.step c) := by
  unfold Before step
  by_cases hbreak : c = '\n'
  · rw [if_pos hbreak]
    exact Or.inl (Nat.lt_succ_self _)
  · rw [if_neg hbreak]
    exact Or.inr ⟨rfl, Nat.lt_succ_self _⟩

/-- Whatever is passed, line and column go forward. -/
theorem before_advance (p : Position) {text : List Char} (h : text ≠ []) :
    p.Before (p.advance text) := by
  induction text generalizing p with
  | nil => exact absurd rfl h
  | cons c cs ih =>
    rw [advance_cons]
    by_cases hcs : cs = []
    · rw [hcs]
      exact p.before_step c
    · exact (p.before_step c).trans (ih (p.step c) hcs)

theorem offset_lt_advance (p : Position) {text : List Char} (h : text ≠ []) :
    p.offset < (p.advance text).offset := by
  have hpos := Text.width_pos h
  rw [advance_offset]
  omega

/-- The lexicographic order of line and column. -/
def compareLines (p q : Position) : Ordering :=
  (compare p.line q.line).then (compare p.column q.column)

theorem Before.compareLines_eq (h : p.Before q) :
    p.compareLines q = .lt ∧ q.compareLines p = .gt := by
  unfold compareLines
  rcases h with hline | ⟨hline, hcolumn⟩
  · rw [Nat.compare_eq_lt.mpr hline, Nat.compare_eq_gt.mpr hline]
    exact ⟨rfl, rfl⟩
  · rw [hline, Nat.compare_eq_eq.mpr rfl, Nat.compare_eq_lt.mpr hcolumn,
      Nat.compare_eq_gt.mpr hcolumn]
    exact ⟨rfl, rfl⟩

/-- Where the offsets differ, they decide. -/
theorem compare_of_offset_lt (h : p.offset < q.offset) :
    compare p q = .lt ∧ compare q p = .gt := by
  change order p q = .lt ∧ order q p = .gt
  unfold order
  rw [Nat.compare_eq_lt.mpr h, Nat.compare_eq_gt.mpr h]
  exact ⟨rfl, rfl⟩

theorem compare_self (p : Position) : compare p p = .eq ∧ p.compareLines p = .eq := by
  change order p p = .eq ∧ p.compareLines p = .eq
  unfold order compareLines
  rw [Nat.compare_eq_eq.mpr rfl, Nat.compare_eq_eq.mpr rfl, Nat.compare_eq_eq.mpr rfl]
  exact ⟨rfl, rfl⟩

theorem advance_line (p : Position) (text : List Char) :
    (p.advance text).line = p.line + text.count '\n' := by
  induction text generalizing p with
  | nil => rfl
  | cons c cs ih =>
    rw [advance_cons, ih, List.count_cons]
    unfold step
    by_cases hbreak : c = '\n'
    · simp only [hbreak, if_true, beq_self_eq_true]
      omega
    · simp [hbreak]

/-- From the start of a text, the column counts the characters behind the last line break. -/
theorem start_advance_column (text : List Char) :
    (start.advance text).column = (text.reverse.takeWhile (· ≠ '\n')).length := by
  -- from the right, since the last line is where the text ends
  induction text using List.reverseRecOn with
  | nil => rfl
  | append_singleton cs c ih =>
    rw [advance_append, advance_cons, advance_nil, List.reverse_append, List.reverse_singleton,
      List.singleton_append]
    unfold step
    by_cases hbreak : c = '\n'
    · simp [hbreak]
    · simp [hbreak, ih]

/-- What a place is shown as tells its line and its column. -/
theorem eq_of_display (h : p.display = q.display) : p.line = q.line ∧ p.column = q.column := by
  have hshown : ∀ p : Position, p.display.toList =
      "line ".toList ++ ((toString p.line).toList ++ (", col ".toList ++
        (toString p.column).toList)) := by
    intro p
    change ("line " ++ toString p.line ++ ", col " ++ toString p.column).toList = _
    simp only [String.toList_append, List.append_assoc]
  have hcomma : ∀ rest, Text.Avoids Char.isDigit (", col ".toList ++ rest) :=
    fun rest => Text.avoids_cons rfl _
  have hlists := congrArg String.toList h
  rw [hshown, hshown] at hlists
  obtain ⟨hline, hbehind⟩ := Text.digits_append_inj
    (fun _ hc => Text.isDigit_of_mem_toString hc) (fun _ hc => Text.isDigit_of_mem_toString hc)
    (hcomma _) (hcomma _) (List.append_cancel_left hlists)
  exact ⟨Text.toString_injective hline,
    Text.toString_injective (List.append_cancel_left hbehind)⟩

/-- The place at an offset of a text, if the offset is a border of characters. -/
def placeAt? (text : String) (offset : Nat) : Option Position :=
  (Text.split offset text.toList).map fun parts => start.advance parts.1

theorem placeAt?_eq_some_iff (text : String) (offset : Nat) (p : Position) :
    placeAt? text offset = some p ↔
      ∃ front back, text.toList = front ++ back ∧ Text.width front = offset ∧
        p = start.advance front := by
  unfold placeAt?
  rw [Option.map_eq_some_iff]
  constructor
  · intro h
    obtain ⟨⟨front, back⟩, hcut, rfl⟩ := h
    obtain ⟨htext, hwidth⟩ := (Text.split_eq_some_iff _ _ _ _).mp hcut
    exact ⟨front, back, htext, hwidth, rfl⟩
  · intro h
    obtain ⟨front, back, htext, hwidth, rfl⟩ := h
    exact ⟨(front, back), (Text.split_eq_some_iff _ _ _ _).mpr ⟨htext, hwidth⟩, rfl⟩

/-- Two places of one text are the same, or one is before the other in every respect. -/
theorem placeAt?_cases {text : String} {i j : Nat} (hp : placeAt? text i = some p)
    (hq : placeAt? text j = some q) :
    (i = j ∧ p = q) ∨ (i < j ∧ p.offset < q.offset ∧ p.Before q) ∨
      (j < i ∧ q.offset < p.offset ∧ q.Before p) := by
  obtain ⟨front, back, htext, rfl, rfl⟩ := (placeAt?_eq_some_iff _ _ _).mp hp
  obtain ⟨front', back', htext', rfl, rfl⟩ := (placeAt?_eq_some_iff _ _ _).mp hq
  -- the longer front part goes on from the shorter one
  have hlonger : ∀ cs mid : List Char, mid ≠ [] → Text.width cs < Text.width (cs ++ mid) ∧
      (start.advance cs).offset < (start.advance (cs ++ mid)).offset ∧
      (start.advance cs).Before (start.advance (cs ++ mid)) := by
    intro cs mid hmid
    have hpos := Text.width_pos hmid
    rw [advance_append, Text.width_append]
    exact ⟨by omega, offset_lt_advance _ hmid, before_advance _ hmid⟩
  rcases Text.cut_cases (htext.symm.trans htext') with rfl | ⟨mid, hmid, rfl⟩ | ⟨mid, hmid, rfl⟩
  · exact Or.inl ⟨rfl, rfl⟩
  · exact Or.inr (Or.inl (hlonger front mid hmid))
  · exact Or.inr (Or.inr (hlonger front' mid hmid))

/-- Lines and columns name places: for every text, the place at a border of characters counts what
stands before it, and two borders are in the order of their lines and columns, which is the order
of places and that of the offsets. -/
theorem line_and_column_name_places (text : String) :
    -- moving over two texts in turn
    (∀ (p : Position) (a b : String),
      p.advance (a ++ b).toList = (p.advance a.toList).advance b.toList) ∧
    -- the borders of characters are where there are places
    (∀ offset, String.Pos.Raw.IsValid text ⟨offset⟩ ↔ (placeAt? text offset).isSome = true) ∧
    (∀ offset p, placeAt? text offset = some p →
      ∃ front back, text.toList = front ++ back ∧ Text.width front = offset ∧
        p = start.advance front ∧ p.offset = offset ∧ p.line = 1 + front.count '\n' ∧
        p.column = (front.reverse.takeWhile (· ≠ '\n')).length) ∧
    -- two of them
    ∀ i j p q, placeAt? text i = some p → placeAt? text j = some q →
      (i < j ↔ p.line < q.line ∨ p.line = q.line ∧ p.column < q.column) ∧
      compare p q = compare i j ∧
      compare p q = (compare p.line q.line).then (compare p.column q.column) ∧
      (p.display = q.display → p = q) := by
  refine ⟨?_, ?_, ?_, ?_⟩
  · intro p a b
    rw [String.toList_append, advance_append]
  · intro offset
    rw [Text.isValid_iff_split, placeAt?, Option.isSome_map]
  · intro offset p hp
    obtain ⟨front, back, htext, rfl, rfl⟩ := (placeAt?_eq_some_iff _ _ _).mp hp
    exact ⟨front, back, htext, rfl, rfl, start_advance_offset front, advance_line start front,
      start_advance_column front⟩
  · intro i j p q hp hq
    change (i < j ↔ p.Before q) ∧ _ ∧ compare p q = p.compareLines q ∧ _
    rcases placeAt?_cases hp hq with
      ⟨rfl, rfl⟩ | ⟨hlt, hoffset, hbefore⟩ | ⟨hlt, hoffset, hbefore⟩
    · obtain ⟨hself, hlines⟩ := p.compare_self
      have hirrefl : ¬ p.Before p := fun h => h.asymm h
      rw [hself, hlines, Nat.compare_eq_eq.mpr rfl]
      exact ⟨⟨fun h => absurd h (Nat.lt_irrefl i), fun h => absurd h hirrefl⟩, rfl, rfl,
        fun _ => rfl⟩
    · rw [(compare_of_offset_lt hoffset).1, hbefore.compareLines_eq.1, Nat.compare_eq_lt.mpr hlt]
      refine ⟨⟨fun _ => hbefore, fun _ => hlt⟩, rfl, rfl, fun hshown => ?_⟩
      obtain ⟨hline, hcolumn⟩ := eq_of_display hshown
      unfold Before at hbefore
      omega
    · rw [(compare_of_offset_lt hoffset).2, hbefore.compareLines_eq.2, Nat.compare_eq_gt.mpr hlt]
      refine ⟨⟨fun h => ?_, fun h => absurd h hbefore.asymm⟩, rfl, rfl, fun hshown => ?_⟩
      · omega
      · obtain ⟨hline, hcolumn⟩ := eq_of_display hshown
        unfold Before at hbefore
        omega

/-- A character of two bytes, an empty line, and a line that breaks off: the place behind the
second line break is before the one at the end, though its column is the smaller one again. -/
theorem line_and_column_name_places_on_empty_line :
    placeAt? "aé\n\nb" 5 = some ⟨5, 3, 0⟩ ∧ placeAt? "aé\n\nb" 3 = some ⟨3, 1, 2⟩ ∧
      compare (⟨3, 1, 2⟩ : Position) ⟨5, 3, 0⟩ = .lt ∧
      ¬ String.Pos.Raw.IsValid "aé\n\nb" ⟨2⟩ := by
  have hlast : placeAt? "aé\n\nb" 5 = some ⟨5, 3, 0⟩ := by decide
  have hfirst : placeAt? "aé\n\nb" 3 = some ⟨3, 1, 2⟩ := by decide
  obtain ⟨-, hvalid, -, horder⟩ := line_and_column_name_places "aé\n\nb"
  obtain ⟨-, hcompare, -, -⟩ := horder 3 5 _ _ hfirst hlast
  refine ⟨hlast, hfirst, hcompare, ?_⟩
  rw [hvalid]
  decide

end Position

end Descent
