import Descent.Calculator
import Descent.Proofs.Cursor
import Descent.Proofs.Pasting

/-!
Patterns match where the scanner stands. A pattern is set into an anchored group as a piece of
text, so that the anchor holds for the whole of it only if the text cannot close the group from
inside. A text that is a pattern by itself cannot: the pasted text is then read as the anchor with
the pattern behind it, what is compiled begins with the start of the text on every way through it,
and the search gives up behind the first place. Both tokens of such a pattern read the same front
part of the text left, or both refuse it. A text that is no pattern by itself may end the group
and go on with branches that have no anchor; such a pattern can match further along, where the two
tokens move by different amounts.
-/
namespace Descent

namespace Regex

theorem Expression.isAnchored_behind_start (e : Expression) (here : Mark) :
    ((alternation [(require .textStart).concat e]).toNode here).isAnchored = true := by
  cases e <;> rfl

/-- A phrase behind the line start is anchored if no flag is set. -/
theorem Phrase.isAnchored_of_meaning? {phrase : Phrase} {e : Expression} (here : Mark)
    (h : (seq .lineStart phrase).meaning? {} = some e) : (e.toNode here).isAnchored = true := by
  obtain ⟨⟨es, after⟩, hbranches, hresult⟩ := Option.bind_eq_some_iff.mp h
  cases hresult
  obtain ⟨⟨es', after'⟩, -, hresult⟩ := Option.bind_eq_some_iff.mp hbranches
  cases hresult
  exact Expression.isAnchored_behind_start _ here

/-- A search for an anchored node finds nothing behind the place where it begins. -/
theorem Node.searchFrom_start {n : Node} (h : n.isAnchored = true) {rounds : Nat} {taken : Taken}
    {before : Option Char} {index : Nat} {rest : List Char} {start : Nat} {s : Spot}
    (hsearch : n.searchFrom rounds taken before index rest = some (start, s)) :
    start = index := by
  unfold searchFrom at hsearch
  split at hsearch
  · cases hsearch
    rfl
  · cases rest with
    | nil => cases hsearch
    | cons c cs =>
      simp only [h, if_true, reduceCtorEq] at hsearch

end Regex

theorem Regex.exists_meaning {source : String} {flags : Regex.Flags} {r : Regex}
    (h : Regex.compile? source flags = some r) :
    ∃ phrase e, Regex.Phrase.read? flags source.toList = some phrase ∧
      phrase.meaning? flags = some e ∧ r = ⟨source, flags, e.toNode [], e.groupCount⟩ := by
  obtain ⟨phrase, hread, h⟩ := Option.bind_eq_some_iff.mp h
  obtain ⟨e, hmeaning, h⟩ := Option.bind_eq_some_iff.mp h
  simp only [Option.ite_none_right_eq_some, Option.some.injEq] at h
  exact ⟨phrase, e, hread, hmeaning, h.2.symm⟩

namespace Pattern

/-- The pattern of a text that is a pattern by itself has the meaning of this text behind the
anchor. -/
theorem exists_meaning {source : String} {p : Pattern} {phrase : Regex.Phrase}
    (hp : compile? source = some p) (hread : Regex.Phrase.read? {} source.toList = some phrase) :
    ∃ e, (Regex.Phrase.seq .lineStart (.scope [] phrase)).meaning? {} = some e ∧
      p = ⟨source, anchoredSource source, {}, e.toNode [], e.groupCount⟩ := by
  obtain ⟨r, hregex, rfl⟩ := Option.map_eq_some_iff.mp hp
  obtain ⟨pasted, e, hpasted, hmeaning, rfl⟩ := Regex.exists_meaning hregex
  have htext : (anchoredSource source).toList =
      '^' :: '(' :: '?' :: ':' :: (source.toList ++ [')']) := by
    simp [anchoredSource, String.toList_append]
  rw [htext] at hpasted
  rw [Regex.Phrase.read?_pasted hread hpasted] at hmeaning
  exact ⟨e, hmeaning, rfl⟩

theorem startsHere_of_isAnchored {p : Pattern} (h : p.anchored.node.isAnchored = true) :
    p.StartsHere := by
  intro text m hfind
  obtain ⟨⟨start, s⟩, hsearch, hmatch⟩ := Option.bind_eq_some_iff.mp hfind
  cases hmatch
  exact Regex.Node.searchFrom_start h hsearch

theorem isAnchored_of_read? {source : String} {p : Pattern} (hp : compile? source = some p)
    (hsource : (Regex.Phrase.read? {} source.toList).isSome) :
    p.anchored.node.isAnchored = true := by
  obtain ⟨phrase, hread⟩ := Option.isSome_iff_exists.mp hsource
  obtain ⟨e, hmeaning, rfl⟩ := exists_meaning hp hread
  exact Regex.Phrase.isAnchored_of_meaning? [] hmeaning

theorem StartsHere.slice_eq {p : Pattern} (h : p.StartsHere) {text : List Char} {m : Regex.Match}
    (hfind : p.find? text = some m) : m.whole.slice text = text.take m.whole.stop := by
  unfold Regex.Span.slice
  rw [h text m hfind, List.drop_zero, Nat.sub_zero]

end Pattern

namespace Token

variable {ρ : Type} {Y : ρ → Type}

theorem run_of_reading {t : Token} {s : Scanner} {front back : List Char} {value : t.Yield}
    (hrest : s.rest = front ++ back) (hread : t.reading s.rest = .ok (Text.width front, value))
    (kind : Callee ρ → String) (body : (c : Callee ρ) → Scanner → Outcome (c.Yield Y)) :
    (t.script : Script Y t.Yield).run kind body s = .finished (.ok value)
      { s.noteAttempt t.what with rest := back, location := s.location.advance front } := by
  obtain ⟨log, hnote, -⟩ := s.exists_noteAttempt t.what
  have hadvance := ((s.noteAttempt t.what).advance_eq_ok_iff
    { s.noteAttempt t.what with rest := back, location := s.location.advance front }
    (Text.width front)).mpr ⟨front, by rw [hnote, hrest], rfl, by rw [hnote]⟩
  rw [run_script, hread]
  simp only [hadvance]

/-- The two tokens of a pattern whose matches begin where they are looked for decide alike. -/
theorem reading_of_startsHere {p : Pattern} (h : p.StartsHere) (text : List Char) :
    (∃ front back texts, text = front ++ back ∧
      (pattern p).reading text = .ok (Text.width front, String.ofList front) ∧
      (groups p).reading text = .ok (Text.width front, String.ofList front :: texts)) ∨
    ((pattern p).reading text = .error (.patternMismatch p.source) ∧
      (groups p).reading text = .error (.patternMismatch p.source)) := by
  cases hfind : p.find? text with
  | none => exact .inr ⟨by rw [reading, hfind], by rw [reading, hfind]⟩
  | some m =>
    refine .inl ⟨text.take m.whole.stop, text.drop m.whole.stop,
      m.groups.map fun group => String.ofList ((group.map (·.slice text)).getD []),
      (List.take_append_drop _ _).symm, ?_, ?_⟩
    · simp only [reading, hfind, h.slice_eq hfind]
    · simp only [reading, hfind, groupTexts, h.slice_eq hfind]

end Token

/-- A pattern whose text is a pattern by itself, or that is anchored for another reason, matches
where the scanner stands: its two tokens read the same front part of the text left and stand
behind it, or both refuse the text without having moved. -/
theorem pattern_and_groups_agree {source : String} {p : Pattern}
    (hp : Pattern.compile? source = some p)
    (hanchor : (Regex.Phrase.read? {} source.toList).isSome ∨ p.anchored.node.isAnchored = true)
    {ρ : Type} {Y : ρ → Type} (kind : Callee ρ → String)
    (body : (c : Callee ρ) → Scanner → Outcome (c.Yield Y)) (s : Scanner) :
    (∃ front back texts u, s.rest = front ++ back ∧ u.rest = back ∧
      u.location = s.location.advance front ∧
      (Token.pattern p).script.run kind body s = .finished (.ok (String.ofList front)) u ∧
      (Token.groups p).script.run kind body s =
        .finished (.ok (String.ofList front :: texts)) u) ∨
    (∃ u, u.rest = s.rest ∧ u.location = s.location ∧
      (Token.pattern p).script.run kind body s =
        .finished (.error (.ofReason s.location (.patternMismatch source))) u ∧
      (Token.groups p).script.run kind body s =
        .finished (.error (.ofReason s.location (.patternMismatch source))) u) := by
  have hanchored : p.anchored.node.isAnchored = true :=
    hanchor.elim (Pattern.isAnchored_of_read? hp) id
  obtain ⟨log, hnote, -⟩ := s.exists_noteAttempt (Token.pattern p).what
  have hsource : p.source = source := by
    obtain ⟨r, -, rfl⟩ := Option.map_eq_some_iff.mp hp
    rfl
  rcases Token.reading_of_startsHere (Pattern.startsHere_of_isAnchored hanchored) s.rest with
    ⟨front, back, texts, hrest, hpattern, hgroups⟩ | ⟨hpattern, hgroups⟩
  · refine .inl ⟨front, back, texts, _, hrest, ?_, ?_,
      Token.run_of_reading hrest hpattern kind body, Token.run_of_reading hrest hgroups kind body⟩
    · rfl
    · rfl
  · refine .inr ⟨s.noteAttempt (Token.pattern p).what, by rw [hnote], by rw [hnote], ?_, ?_⟩
    · rw [Token.run_script, hpattern, hsource]
    · rw [Token.run_script, hgroups, hsource]
      rfl

/-- The two tokens of the pattern for numbers at the beginning of a text. -/
theorem pattern_and_groups_agree_on_number :
    let s := Scanner.ofString "12x" {}
    let run {α : Type} (script : Script Calculator.grammar.Yield α) : Outcome α :=
      script.run Calculator.grammar.kindOf (Calculator.grammar.run 0) s
    (∃ front back texts u, s.rest = front ++ back ∧ u.rest = back ∧
      u.location = s.location.advance front ∧
      run (Token.pattern Calculator.number).script = .finished (.ok (String.ofList front)) u ∧
      run (Token.groups Calculator.number).script =
        .finished (.ok (String.ofList front :: texts)) u) ∨
    (∃ u, u.rest = s.rest ∧ u.location = s.location ∧
      run (Token.pattern Calculator.number).script =
        .finished (.error (.ofReason s.location (.patternMismatch "[0-9]+(?:\\.[0-9]+)?"))) u ∧
      run (Token.groups Calculator.number).script =
        .finished (.error (.ofReason s.location (.patternMismatch "[0-9]+(?:\\.[0-9]+)?"))) u) :=
  pattern_and_groups_agree (Option.some_get _).symm (.inl (by decide +kernel)) _ _ _

/-- A text that closes the group it is set into, so that its second branch is not anchored. -/
def Pattern.unbalanced : Pattern := (compile? "a)|(?:b").get (by decide +kernel)

namespace Pattern

open Text (CharSet)

theorem unbalanced_node :
    unbalanced.anchored.node =
      .choice [] (.seq (.require .textStart) (.oneOf (CharSet.single 'a')))
        (.oneOf (CharSet.single 'b')) ∧ unbalanced.anchored.groupCount = 1 := by decide +kernel

theorem find?_unbalanced {c : Char} (ha : (CharSet.single 'a').contains c = false)
    (hb : (CharSet.single 'b').contains c = false) :
    unbalanced.find? [c, 'b'] = some ⟨⟨1, 2⟩, []⟩ := by
  have hread : (CharSet.single 'b').contains 'b' = true := by decide
  unfold find? Regex.find?
  rw [unbalanced_node.1, unbalanced_node.2]
  simp [Regex.Node.search, Regex.Node.searchFrom, Regex.Node.run, Regex.Node.choose,
    Regex.Node.isAnchored, Regex.Spot.holds, Regex.Assertion.holds, Regex.Spot.read?, ha, hb,
    hread, Std.HashSet.contains_insert]

theorem compile?_unbalanced : compile? "a)|(?:b" = some unbalanced := (Option.some_get _).symm

theorem reading_unbalanced {c : Char} (ha : (CharSet.single 'a').contains c = false)
    (hb : (CharSet.single 'b').contains c = false) :
    (Token.pattern unbalanced).reading [c, 'b'] = .ok (Text.width [c, 'b'], "b") ∧
      (Token.groups unbalanced).reading [c, 'b'] = .ok (1, ["b"]) := by
  have hfind := find?_unbalanced ha hb
  constructor
  · simp only [Token.reading, hfind]
    rfl
  · simp only [Token.reading, hfind]
    rfl

end Pattern

/-- A pattern whose text is none by itself may match further along: one of its tokens then moves
to the end of the match, the other by its length, which may end inside of a character. -/
theorem unbalanced_pattern_escapes :
    let run {α : Type} (script : Script Calculator.grammar.Yield α) (text : String) : Outcome α :=
      script.run Calculator.grammar.kindOf (Calculator.grammar.run 0) (.ofString text {})
    ∃ p, Pattern.compile? "a)|(?:b" = some p ∧
      (∃ u, run (Token.pattern p).script "xb" = .finished (.ok "b") u ∧ u.location = ⟨2, 1, 2⟩) ∧
      (∃ u, run (Token.groups p).script "xb" = .finished (.ok ["b"]) u ∧
        u.location = ⟨1, 1, 1⟩) ∧
      ∃ u, run (Token.groups p).script "éb" = .violated (.insideCharacter 1) u := by
  intro run
  have hrest : (Scanner.ofString "xb" {}).rest = ['x', 'b'] := rfl
  have hrest' : (Scanner.ofString "éb" {}).rest = ['é', 'b'] := rfl
  obtain ⟨hpattern, hgroups⟩ := Pattern.reading_unbalanced (c := 'x') (by decide) (by decide)
  obtain ⟨-, hgroups'⟩ := Pattern.reading_unbalanced (c := 'é') (by decide) (by decide)
  rw [← hrest] at hpattern hgroups
  rw [← hrest'] at hgroups'
  refine ⟨_, Pattern.compile?_unbalanced, ?_, ?_, ?_⟩
  · have hsplit : (Scanner.ofString "xb" {}).rest = ['x', 'b'] ++ [] := rfl
    exact ⟨_, Token.run_of_reading hsplit hpattern _ _, rfl⟩
  · have hsplit : (Scanner.ofString "xb" {}).rest = ['x'] ++ ['b'] := rfl
    exact ⟨_, Token.run_of_reading hsplit hgroups _ _, rfl⟩
  · refine ⟨(Scanner.ofString "éb" {}).noteAttempt (Token.groups .unbalanced).what, ?_⟩
    refine (Token.run_script _ _ _ _).trans ?_
    rw [hgroups']
    rfl

end Descent
