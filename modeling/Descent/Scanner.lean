import Descent.Argument
import Descent.Failure
import Descent.Limits
import Descent.Log

/-!
The scanner: a text, the place reached in it, and what a parse keeps besides: the nesting
depth, the arguments of the running invocation, the last failure, and the log. Moving forward
is by a number of bytes; leaving the text, or stopping inside a character, violates the
contract of `advance` and ends the whole run.
-/
namespace Descent

structure Scanner where
  buffer : String
  rest : List Char
  location : Position
  log : Option Log
  guard : Guard
  limits : Limits
  arguments : List Argument
  /-- The failure of the last parse that the running invocation made, unless it succeeded. -/
  lastFailure : Option Failure

inductive Violation
  | pastEnd (offset length : Nat)
  | insideCharacter (offset : Nat)
deriving DecidableEq, Repr

def Violation.message : Violation → String
  | pastEnd offset length => s!"advanced past end of input: offset {offset} > length {length}"
  | insideCharacter offset => s!"advanced into the middle of a character at offset {offset}"

inductive Outcome (α : Type)
  | finished (result : Except Failure α) (scanner : Scanner)
  | violated (violation : Violation) (scanner : Scanner)
  /-- Without a result, since invocations nested deeper than there was room for. -/
  | exhausted

/-- Goes on behind a value. Any other end is the end of the whole. -/
def Outcome.andThen {α β : Type} (o : Outcome α) (f : α → Scanner → Outcome β) : Outcome β :=
  match o with
  | finished (.ok value) s => f value s
  | finished (.error failure) s => finished (.error failure) s
  | violated violation s => violated violation s
  | exhausted => exhausted

namespace Scanner

def ofString (text : String) (limits : Limits) : Scanner where
  buffer := text
  rest := text.toList
  location := .start
  log := none
  guard := {}
  limits := limits
  arguments := []
  lastFailure := none

def withLog (s : Scanner) : Scanner := { s with log := some [] }

def length (s : Scanner) : Nat := Text.width s.buffer.toList

def depth (s : Scanner) : Nat := s.guard.depth

def atEnd (s : Scanner) : Bool := s.length ≤ s.location.offset

def isLogging (s : Scanner) : Bool := s.log.isSome

/-- Moves forward by `count` bytes. -/
def advance (s : Scanner) (count : Nat) : Except Violation Scanner :=
  match Text.split count s.rest with
  | some (front, back) => .ok { s with rest := back, location := s.location.advance front }
  | none =>
    if Text.atLeast count s.rest then .error (.insideCharacter (s.location.offset + count))
    else .error (.pastEnd (s.location.offset + count) s.length)

/-- Logs a line at the present depth. -/
def note (s : Scanner) (message : String) : Scanner :=
  { s with log := s.log.map (⟨s.depth, message⟩ :: ·) }

/-- The beginning of the text left, quoted, with dots if it is not all of it. -/
def preview (s : Scanner) : String :=
  match s.rest.drop s.limits.preview with
  | [] => Text.quotedList s.rest
  | _ :: _ => Text.quotedList (s.rest.take s.limits.preview) ++ "..."

def noteAttempt (s : Scanner) (what : String) : Scanner :=
  if s.isLogging then s.note ("matching " ++ what ++ " against " ++ s.preview) else s

/-- The log so far as a text; it begins anew. -/
def takeLog (s : Scanner) : Option String × Scanner :=
  (s.log.map Log.render, { s with log := s.log.map fun _ => [] })

/-- A failure at a place, caused by the last failure. -/
def failureAt (s : Scanner) (location : Position) (message : String) : Failure :=
  ⟨location, message, s.lastFailure⟩

def failure (s : Scanner) (message : String) : Failure := s.failureAt s.location message

/-- Goes back to an earlier place of the same text. -/
def returnTo (s earlier : Scanner) : Scanner :=
  { s with rest := earlier.rest, location := earlier.location }

def textSince (s earlier : Scanner) : List Char :=
  earlier.rest.take (earlier.rest.length - s.rest.length)

end Scanner

/-- What can be seen of a scanner from outside. -/
structure Snapshot where
  location : Position
  rest : List Char
  length : Nat
  depth : Nat
  logging : Bool
  arguments : List Argument
  lastFailure : Option Failure

namespace Snapshot

def atEnd (s : Snapshot) : Bool := s.length ≤ s.location.offset

def inspect (s : Snapshot) : String :=
  Text.openRecord "Scanner"
    [("location", s.location.inspect), ("depth", toString s.depth),
      ("tracing", toString s.logging),
      ("args", Text.listForm (s.arguments.map Argument.inspect)),
      ("last_failure", Text.optionForm (s.lastFailure.map Failure.inspect))]

end Snapshot

end Descent
