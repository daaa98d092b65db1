import Descent.Scanner

/-!
Invoking a rule from inside another. Every invocation runs one level deeper, with arguments of
its own and no failure on record, and what the caller had is put back behind it. The three
modes differ in what they keep: a parse keeps the place it reached and records how it ended, a
peek keeps nothing, and a skip keeps the place but records nothing. After a failure all three
are back where they began.
-/
namespace Descent

namespace Scanner

/-- Logs how an invocation ended: its kind of value and the text it read, or where and why it
failed. `start` is the scanner before it. -/
def noteOutcome {α : Type} (s start : Scanner) (kind : String) (result : Except Failure α) :
    Scanner :=
  if s.isLogging then
    match result with
    | .ok _ => s.note ("+ " ++ kind ++ " " ++ Text.quotedList (s.textSince start))
    | .error f => s.note ("! " ++ f.location.display ++ ": " ++ f.message)
  else s

/-- Runs a body one level deeper. If the bound on nesting refuses the level, nothing runs and
the invocation fails where it was made. -/
def invoke {α : Type} (kind : String) (body : Scanner → Outcome α) (args : List Argument)
    (s : Scanner) : Outcome α :=
  match s.guard.enter s.limits.maxDepth with
  | (guard, .error reason) =>
    let result : Except Failure α := .error (.ofReason s.location reason)
    .finished result ({ s with guard := guard.leave }.noteOutcome s kind result)
  | (guard, .ok ()) =>
    match body { s with guard := guard, arguments := args, lastFailure := none } with
    | .finished result t =>
      let back := { t with
        guard := t.guard.leave, arguments := s.arguments, lastFailure := s.lastFailure }
      .finished result (back.noteOutcome s kind result)
    | .violated violation t => .violated violation t
    | .exhausted => .exhausted

end Scanner

inductive Mode
  | parse
  | peek
  | skip
deriving DecidableEq

namespace Mode

/-- What the caller learns: a parse gives the result, the others only whether it is a value. -/
abbrev Answer : Mode → Type → Type
  | parse, α => Except Failure α
  | peek, _ => Bool
  | skip, _ => Bool

def answer {α : Type} (mode : Mode) (result : Except Failure α) : mode.Answer α :=
  match mode with
  | parse => result
  | peek => result.isOk
  | skip => result.isOk

def mapAnswer {α β : Type} (mode : Mode) (f : α → β) (a : mode.Answer α) : mode.Answer β :=
  match mode, a with
  | parse, result => result.map f
  | peek, found => found
  | skip, found => found

/-- The scanner behind an invocation that left it as `after`. -/
def settle {α : Type} (mode : Mode) (before : Scanner) (result : Except Failure α)
    (after : Scanner) : Scanner :=
  match mode, result with
  | parse, .ok _ => { after with lastFailure := none }
  | parse, .error f => { after.returnTo before with lastFailure := some f }
  | peek, _ => after.returnTo before
  | skip, .ok _ => after
  | skip, .error _ => after.returnTo before

end Mode

namespace Scanner

def call {α : Type} (mode : Mode) (kind : String) (body : Scanner → Outcome α)
    (args : List Argument) (s : Scanner) : Outcome α :=
  match s.invoke kind body args with
  | .finished result t => .finished result (mode.settle s result t)
  | .violated violation t => .violated violation t
  | .exhausted => .exhausted

end Scanner

end Descent
