import Descent.Grammar

/-!
Parsing a text from its start with a rule of a grammar. A complete parse must use up the text;
what is left over is reported with the last failure as the cause, since that is why the rule went
no further. A traced parse writes its log to a sink, and its result does not depend on the sink.
-/
namespace Descent

inductive Fault
  | failure (f : Failure)
  | violation (v : Violation)
  | exhausted

def Fault.message : Fault → String
  | failure f => f.display
  | violation v => v.message
  | exhausted => "nested too deeply"

def Outcome.toExcept {α : Type} : Outcome α → Except Fault α
  | finished (.ok value) _ => .ok value
  | finished (.error f) _ => .error (.failure f)
  | violated v _ => .error (.violation v)
  | exhausted => .error .exhausted

/-- A receiver of text that may be full after some bytes; what comes later is lost. -/
structure Sink where
  capacity : Option Nat
  received : List Char

namespace Sink

def empty (capacity : Option Nat) : Sink := ⟨capacity, []⟩

def write (sink : Sink) (text : List Char) : Sink :=
  match sink.capacity with
  | none => { sink with received := sink.received ++ text }
  | some capacity =>
    { sink with received := Text.firstBytes capacity (sink.received ++ text) }

end Sink

namespace Grammar

variable (g : Grammar)

def start (c : Callee g.Rule) (s : Scanner) : Outcome (c.Yield g.Yield) :=
  g.runScript (g.script c) s

/-- Parses as much as the rule takes. -/
def parseSome (c : Callee g.Rule) (text : String) : Except Fault (c.Yield g.Yield) :=
  (g.start c (.ofString text {})).toExcept

/-- Fails where a run stopped short of the end of the text. -/
def complete {α : Type} : Outcome α → Outcome α
  | .finished (.ok value) s =>
    if s.atEnd then .finished (.ok value) s
    else .finished (.error (s.failure Reason.notConsumed.message)) s
  | other => other

def parseWithin (c : Callee g.Rule) (text : String) (limits : Limits) :
    Except Fault (c.Yield g.Yield) :=
  (complete (g.start c (.ofString text limits))).toExcept

def parse (c : Callee g.Rule) (text : String) : Except Fault (c.Yield g.Yield) :=
  g.parseWithin c text {}

def logOf {α : Type} : Outcome α → Option Log
  | .finished _ s => s.log
  | _ => none

def parseLogged (c : Callee g.Rule) (text : String) (sink : Sink) :
    Except Fault (c.Yield g.Yield) × Sink :=
  let outcome := g.start c (Scanner.ofString text {}).withLog
  match logOf outcome with
  | none => (outcome.toExcept, sink)
  | some log => (outcome.toExcept, sink.write log.chars)

end Grammar

end Descent
