import Descent.Invocation
import Descent.Pattern

/-!
Scripts: what the body of a rule does with the scanner, as a tree of its operations. Each node
is one operation and continues with the answer to it. A body can thus be run, and it can also
be looked at: which operations it may use is a property of the tree. Scripts form a monad, so
bodies are written as sequences of operations.
-/
namespace Descent

/-- The parsers that read text themselves. -/
inductive Token
  | literal (text : String)
  /-- Any run of the given characters, also an empty one. -/
  | anyOf (characters : String)
  | pattern (p : Pattern)
  /-- The texts of the groups of a pattern, the whole match first. -/
  | groups (p : Pattern)

abbrev Token.Yield : Token → Type
  | literal _ => String
  | anyOf _ => Unit
  | pattern _ => String
  | groups _ => List String

/-- What a body may invoke: a token, or a rule of the grammar. -/
inductive Callee (ρ : Type)
  | token (t : Token)
  | rule (r : ρ)

abbrev Callee.Yield {ρ : Type} (Y : ρ → Type) : Callee ρ → Type
  | token t => t.Yield
  | rule r => Y r

/-- What a body may ask about the scanner it runs on. -/
inductive Query
  | location
  | remaining
  | buffer
  | depth
  | arguments
  | lastFailure
  | logging
deriving DecidableEq

abbrev Query.Answer : Query → Type
  | location => Position
  | remaining => List Char
  | buffer => String
  | depth => Nat
  | arguments => List Argument
  | lastFailure => Option Failure
  | logging => Bool

def Query.answer (q : Query) (s : Scanner) : q.Answer :=
  match q with
  | location => s.location
  | remaining => s.rest
  | buffer => s.buffer
  | depth => s.depth
  | arguments => s.arguments
  | lastFailure => s.lastFailure
  | logging => s.isLogging

/-- The operations of a body, over rules `ρ` that yield values in `Y`. -/
inductive Script {ρ : Type} (Y : ρ → Type) (α : Type) : Type
  | done (value : α)
  | raise (failure : Failure)
  | call (mode : Mode) (callee : Callee ρ) (args : List Argument)
      (next : mode.Answer (callee.Yield Y) → Script Y α)
  | ask (query : Query) (next : query.Answer → Script Y α)
  | advance (count : Nat) (next : Script Y α)
  | note (message : String) (next : Script Y α)
  | noteAttempt (what : String) (next : Script Y α)
  | takeLog (next : Option String → Script Y α)

namespace Script

variable {ρ : Type} {Y : ρ → Type} {α β : Type}

def bind (s : Script Y α) (f : α → Script Y β) : Script Y β :=
  match s with
  | done value => f value
  | raise failure => raise failure
  | call mode callee args next => call mode callee args fun answer => (next answer).bind f
  | ask query next => ask query fun answer => (next answer).bind f
  | advance count next => advance count (next.bind f)
  | note message next => note message (next.bind f)
  | noteAttempt what next => noteAttempt what (next.bind f)
  | takeLog next => takeLog fun answer => (next answer).bind f

instance : Monad (Script Y) where
  pure := done
  bind := bind

/-- Invokes a callee and goes on with its value or its failure. -/
def attempt (callee : Callee ρ) (args : List Argument) :
    Script Y (Except Failure (callee.Yield Y)) :=
  call .parse callee args done

/-- Invokes a callee and fails as it fails. -/
def parse (callee : Callee ρ) : Script Y (callee.Yield Y) :=
  call .parse callee [] fun
    | .ok value => done value
    | .error failure => raise failure

def succeeds (callee : Callee ρ) : Script Y Bool :=
  call .parse callee [] fun
    | .ok _ => done true
    | .error _ => done false

/-- Whether a callee would succeed here. -/
def sees (callee : Callee ρ) : Script Y Bool := call .peek callee [] done

def skip (callee : Callee ρ) : Script Y Unit := call .skip callee [] fun _ => done ()

def get (query : Query) : Script Y query.Answer := ask query done

/-- Fails at a place, with the last failure as the cause. -/
def failAt (location : Position) (message : String) : Script Y α :=
  ask .lastFailure fun cause => raise ⟨location, message, cause⟩

def fail (message : String) : Script Y α :=
  ask .location fun location => failAt location message

/-- Fails at the present place without a cause. -/
def refuse (reason : Reason) : Script Y α :=
  ask .location fun location => raise (.ofReason location reason)

def move (count : Nat) : Script Y Unit := advance count (done ())

def log (message : String) : Script Y Unit := note message (done ())

def logAttempt (what : String) : Script Y Unit := noteAttempt what (done ())

def snapshot : Script Y Snapshot := do
  return {
    location := ← get .location
    rest := ← get .remaining
    length := Text.width (← get .buffer).toList
    depth := ← get .depth
    logging := ← get .logging
    arguments := ← get .arguments
    lastFailure := ← get .lastFailure }

/-- Runs the operations on the rules of a larger grammar. -/
def embed {σ : Type} {Z : σ → Type} (into : ρ → σ) (back : (r : ρ) → Z (into r) → Y r) :
    Script Y α → Script Z α
  | done value => done value
  | raise failure => raise failure
  | call mode (.token t) args next =>
    call mode (.token t) args fun answer => (next answer).embed into back
  | call mode (.rule r) args next =>
    call mode (.rule (into r)) args fun answer =>
      (next (mode.mapAnswer (back r) answer)).embed into back
  | ask query next => ask query fun answer => (next answer).embed into back
  | advance count next => advance count (next.embed into back)
  | note message next => note message (next.embed into back)
  | noteAttempt what next => noteAttempt what (next.embed into back)
  | takeLog next => takeLog fun answer => (next answer).embed into back

/-- Runs a script on a scanner. `body` runs what is invoked, and `kind` names its value. -/
def run (kind : Callee ρ → String) (body : (c : Callee ρ) → Scanner → Outcome (c.Yield Y)) :
    Script Y α → Scanner → Outcome α
  | done value, s => .finished (.ok value) s
  | raise failure, s => .finished (.error failure) s
  | call mode callee args next, s =>
    match s.call mode (kind callee) (body callee) args with
    | .finished result t => (next (mode.answer result)).run kind body t
    | .violated violation t => .violated violation t
    | .exhausted => .exhausted
  | ask query next, s => (next (query.answer s)).run kind body s
  | advance count next, s =>
    match s.advance count with
    | .ok t => next.run kind body t
    | .error violation => .violated violation s
  | note message next, s => next.run kind body (s.note message)
  | noteAttempt what next, s => next.run kind body (s.noteAttempt what)
  | takeLog next, s => (next s.takeLog.1).run kind body s.takeLog.2

end Script

end Descent
