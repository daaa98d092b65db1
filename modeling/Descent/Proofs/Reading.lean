import Descent.Proofs.Frame

/-!
What tokens read. Every token does the same: it logs its attempt, decides by the text left alone,
and then either fails without having moved, or moves over what it has read (`script_eq`). Its
decision is `reading`: a reason, or a number of bytes and a value.
-/
namespace Descent.Token

def what : Token → String
  | literal text => "literal " ++ Text.quoted text
  | anyOf characters => "any of " ++ Text.quoted characters
  | pattern p => "pattern " ++ Text.quoted p.source
  | groups p => "pattern " ++ Text.quoted p.source

/-- How a token decides about the text left: how many bytes it reads, and what they are worth. -/
def reading : (t : Token) → List Char → Except Reason (Nat × t.Yield)
  | literal text, rest =>
    if !Text.atLeast (Text.width text.toList) rest then .error (.unexpectedEnd text)
    else if !text.toList.isPrefixOf rest then .error (.literalMismatch text)
    else .ok (Text.width text.toList, text)
  | anyOf characters, rest =>
    .ok (Text.width (rest.takeWhile (characters.toList.contains ·)), ())
  | pattern p, rest =>
    match p.find? rest with
    | none => .error (.patternMismatch p.source)
    | some m => .ok (Text.width (rest.take m.whole.stop), String.ofList (m.whole.slice rest))
  | groups p, rest =>
    match p.find? rest with
    | none => .error (.patternMismatch p.source)
    | some m => .ok (Text.width (m.whole.slice rest), groupTexts m rest)

variable {ρ : Type} {Y : ρ → Type}

open Script

def settle {α : Type} : Except Reason (Nat × α) → Script Y α
  | .error reason => refuse reason
  | .ok (count, value) => advance count (done value)

theorem script_eq (t : Token) :
    (t.script : Script Y t.Yield) =
      noteAttempt t.what (ask .remaining fun rest => settle (t.reading rest)) := by
  cases t with
  | literal text =>
    change noteAttempt _ (ask .remaining fun rest => _) = _
    congr 2
    funext rest
    simp only [Script.bind, reading]
    split
    · rfl
    · split <;> rfl
  | anyOf characters => rfl
  | pattern p | groups p =>
    change noteAttempt _ (ask .remaining fun rest => _) = _
    congr 2
    funext rest
    simp only [Script.bind, reading]
    cases p.find? rest <;> rfl

theorem run_script (t : Token) (kind : Callee ρ → String)
    (body : (c : Callee ρ) → Scanner → Outcome (c.Yield Y)) (s : Scanner) :
    (t.script : Script Y t.Yield).run kind body s =
      match t.reading s.rest with
      | .error reason =>
        .finished (.error (.ofReason s.location reason)) (s.noteAttempt t.what)
      | .ok (count, value) =>
        match (s.noteAttempt t.what).advance count with
        | .ok u => .finished (.ok value) u
        | .error violation => .violated violation (s.noteAttempt t.what) := by
  obtain ⟨log, hnote, -⟩ := s.exists_noteAttempt t.what
  have hrest : (s.noteAttempt t.what).rest = s.rest := by rw [hnote]
  have hloc : (s.noteAttempt t.what).location = s.location := by rw [hnote]
  rw [script_eq]
  change (settle (t.reading (s.noteAttempt t.what).rest)).run kind body (s.noteAttempt t.what) = _
  rw [hrest]
  cases t.reading s.rest with
  | error reason =>
    change Outcome.finished (.error (.ofReason (s.noteAttempt t.what).location reason)) _ = _
    rw [hloc]
  | ok read => rfl

end Descent.Token
