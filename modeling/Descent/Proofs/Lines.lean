import Descent.Proofs.Reading

/-!
Lines of logs. What a log shows of a text is quoted, and a quoted text is one line whatever it
holds (`oneLine_quotedList`), so that the scanner and its tokens write one line at a time. A log
is `Nested` if each of its lines closes the block of deeper lines before it: what an invocation
logs stands one level below the line for its end.
-/
namespace Descent

namespace Text

/-- A text without a line break. -/
def OneLine (text : String) : Prop := '\n' ∉ text.toList

instance (text : String) : Decidable (OneLine text) :=
  inferInstanceAs (Decidable ('\n' ∉ text.toList))

theorem OneLine.append {s t : String} (h : OneLine s) (h' : OneLine t) : OneLine (s ++ t) := by
  unfold OneLine
  rw [String.toList_append, List.mem_append, not_or]
  exact ⟨h, h'⟩

theorem oneLine_ofList {cs : List Char} (h : '\n' ∉ cs) : OneLine (String.ofList cs) := by
  unfold OneLine
  rw [String.toList_ofList]
  exact h

theorem exists_digit {base : Nat} (hbase : 1 < base) {n : Nat} {c : Char}
    (h : c ∈ Nat.toDigits base n) : ∃ d, d < base ∧ c = d.digitChar := by
  induction n using Nat.strongRecOn with
  | ind n ih =>
    by_cases hlt : n < base
    · rw [Nat.toDigits_of_lt_base hlt, List.mem_singleton] at h
      exact ⟨n, hlt, h⟩
    · rw [Nat.toDigits_of_base_le hbase (Nat.not_lt.mp hlt), List.mem_append,
        List.mem_singleton] at h
      rcases h with h | h
      · exact ih (n / base) (Nat.div_lt_self (by omega) hbase) h
      · exact ⟨n % base, Nat.mod_lt n (by omega), h⟩

theorem break_not_mem_toDigits {base : Nat} (hbase : 1 < base) (n : Nat) :
    '\n' ∉ Nat.toDigits base n := by
  intro h
  obtain ⟨d, -, hd⟩ := exists_digit hbase h
  exact Nat.digitChar_ne '\n' (by decide) hd.symm

theorem oneLine_toString (n : Nat) : OneLine (toString n) := by
  rw [Nat.toString_eq_ofList_toDigits]
  exact oneLine_ofList (break_not_mem_toDigits (by decide) n)

/-- No character is written as a line break between marks, not even a line break. -/
theorem break_not_mem_quotedChar {mark : Char} (hmark : mark ≠ '\n') (c : Char) :
    '\n' ∉ quotedChar mark c := by
  have hdigits : '\n' ∉ hexDigits c.toNat := break_not_mem_toDigits (by decide) _
  unfold quotedChar
  split
  · next h =>
    have hc : c ≠ '\n' := by
      rintro rfl
      rcases Bool.or_eq_true_iff.mp h with h | h
      · exact hmark (decide_eq_true_eq.mp h).symm
      · exact absurd h (by decide)
    simp [hc.symm]
  · split
    · decide
    · next hbreak =>
      repeat' split
      · decide
      · decide
      · decide
      · simp [numbered, hdigits]
      · simp [Ne.symm hbreak]

theorem oneLine_quotedList (cs : List Char) : OneLine (quotedList cs) := by
  refine oneLine_ofList ?_
  unfold quotedBetween
  simp only [List.mem_append, List.mem_cons, List.mem_flatMap, not_or, not_exists, not_and]
  exact ⟨⟨by decide, fun c _ => break_not_mem_quotedChar (by decide) c⟩, by decide⟩

theorem oneLine_quoted (text : String) : OneLine (quoted text) := oneLine_quotedList text.toList

end Text

open Text (OneLine)

theorem Reason.oneLine_message (reason : Reason) : OneLine reason.message := by
  cases reason with
  | unexpectedEnd literal => exact .append (by decide) (Text.oneLine_quoted literal)
  | literalMismatch literal =>
    exact .append (.append (by decide) (Text.oneLine_quoted literal)) (by decide)
  | patternMismatch pattern =>
    exact .append (.append (by decide) (Text.oneLine_quoted pattern)) (by decide)
  | notConsumed => decide
  | tooDeep depth limit =>
    exact .append (.append (.append (by decide) (Text.oneLine_toString depth)) (by decide))
      (Text.oneLine_toString limit)

theorem Position.oneLine_display (p : Position) : OneLine p.display :=
  .append (.append (.append (by decide) (Text.oneLine_toString p.line)) (by decide))
    (Text.oneLine_toString p.column)

namespace Token

theorem oneLine_kind (t : Token) : OneLine t.kind := by
  cases t with
  | literal | pattern => exact (by decide : OneLine "&str")
  | anyOf => exact (by decide : OneLine "()")
  | groups => exact (by decide : OneLine "alloc::vec::Vec<&str>")

theorem oneLine_what (t : Token) : OneLine t.what := by
  cases t with
  | literal text => exact .append (by decide) (Text.oneLine_quoted text)
  | anyOf characters => exact .append (by decide) (Text.oneLine_quoted characters)
  | pattern p | groups p => exact .append (by decide) (Text.oneLine_quoted p.source)

end Token

namespace Scanner

theorem oneLine_preview (s : Scanner) : OneLine s.preview := by
  unfold preview
  split
  · exact Text.oneLine_quotedList _
  · exact .append (Text.oneLine_quotedList _) (by decide)

def attempt (s : Scanner) (what : String) : String :=
  "matching " ++ what ++ " against " ++ s.preview

theorem oneLine_attempt (s : Scanner) {what : String} (h : OneLine what) :
    OneLine (s.attempt what) :=
  .append (.append (.append (by decide) h) (by decide)) s.oneLine_preview

/-- The line for the end of an invocation. `start` is the scanner before it. -/
def outcome {α : Type} (s start : Scanner) (kind : String) : Except Failure α → String
  | .ok _ => "+ " ++ kind ++ " " ++ Text.quotedList (s.textSince start)
  | .error f => "! " ++ f.location.display ++ ": " ++ f.message

theorem oneLine_outcome {α : Type} (s start : Scanner) {kind : String} (hkind : OneLine kind)
    {result : Except Failure α} (hresult : ∀ f, result = .error f → OneLine f.message) :
    OneLine (s.outcome start kind result) := by
  cases result with
  | ok value =>
    exact .append (.append (.append (by decide) hkind) (by decide)) (Text.oneLine_quotedList _)
  | error f =>
    exact .append (.append (.append (by decide) f.location.oneLine_display) (by decide))
      (hresult f rfl)

theorem noteAttempt_log (s : Scanner) (what : String) :
    (s.noteAttempt what).log = s.log.map (⟨s.depth, s.attempt what⟩ :: ·) := by
  unfold noteAttempt isLogging
  cases hlog : s.log with
  | none => exact hlog
  | some log =>
    change s.log.map _ = _
    rw [hlog]
    rfl

theorem noteOutcome_eq {α : Type} (s start : Scanner) (kind : String)
    (result : Except Failure α) :
    s.noteOutcome start kind result = s.note (s.outcome start kind result) := by
  unfold noteOutcome
  split
  · cases result with
    | ok | error => rfl
  · next hlogging =>
    have hnone : s.log = none := Option.not_isSome_iff_eq_none.mp hlogging
    have hsame : s.log.map (⟨s.depth, s.outcome start kind result⟩ :: ·) = s.log := by
      rw [hnone]
      rfl
    unfold note
    rw [hsame]

theorem noteOutcome_log {α : Type} (s start : Scanner) (kind : String)
    (result : Except Failure α) :
    (s.noteOutcome start kind result).log =
      s.log.map (⟨s.depth, s.outcome start kind result⟩ :: ·) := by
  rw [noteOutcome_eq]
  rfl

end Scanner

/-- The line without its line break. -/
def Line.text (l : Line) : List Char := List.replicate (2 * l.depth) ' ' ++ l.message.toList

namespace Log

/-- Every line closes the block of deeper lines before it, latest first. A line that an invocation
logs by itself closes an empty block. -/
inductive Nested : Nat → Log → Prop
  | nil (depth : Nat) : Nested depth []
  | close {depth : Nat} {block earlier : Log} {message : String} (hearlier : Nested depth earlier)
      (hblock : Nested (depth + 1) block) (hmessage : OneLine message) :
      Nested depth (⟨depth, message⟩ :: (block ++ earlier))

namespace Nested

variable {depth : Nat} {later earlier log : Log}

theorem line (h : Nested depth earlier) {message : String} (hmessage : OneLine message) :
    Nested depth (⟨depth, message⟩ :: earlier) := .close h (.nil _) hmessage

/-- One such log behind another is one again. -/
theorem append (h : Nested depth later) (hearlier : Nested depth earlier) :
    Nested depth (later ++ earlier) := by
  induction h with
  | nil => exact hearlier
  | close _ hblock hmessage ih =>
    rw [List.cons_append, List.append_assoc]
    exact .close (ih hearlier) hblock hmessage

theorem deep (h : Nested depth log) : ∀ l ∈ log, depth ≤ l.depth ∧ OneLine l.message := by
  induction h with
  | nil => simp
  | close _ _ hmessage ih ihBlock =>
    simp only [List.forall_mem_cons, List.forall_mem_append]
    refine ⟨⟨Nat.le_refl _, hmessage⟩, fun l hl => ?_, ih⟩
    obtain ⟨hdepth, hline⟩ := ihBlock l hl
    exact ⟨Nat.le_of_succ_le hdepth, hline⟩

end Nested

/-- What a log shows, line by line. -/
theorem chars_eq (log : Log) :
    log.chars = (log.reverse.map Line.text).flatMap (· ++ ['\n']) := by
  rw [List.flatMap_map]
  rfl

end Log

/-- A line that is deep enough begins with so many blanks, and nothing breaks it. -/
theorem Line.indented {l : Line} {depth : Nat} (hdepth : depth ≤ l.depth)
    (hmessage : OneLine l.message) :
    List.replicate (2 * depth) ' ' <+: l.text ∧ '\n' ∉ l.text := by
  constructor
  · refine ⟨List.replicate (2 * (l.depth - depth)) ' ' ++ l.message.toList, ?_⟩
    have hsum : 2 * depth + 2 * (l.depth - depth) = 2 * l.depth := by omega
    rw [← List.append_assoc, List.replicate_append_replicate, hsum]
    rfl
  · unfold text
    rw [List.mem_append, not_or]
    refine ⟨fun h => ?_, hmessage⟩
    exact absurd (List.eq_of_mem_replicate h) (by decide)

end Descent
