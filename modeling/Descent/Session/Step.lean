import Descent.Json.Grammar
import Descent.Calculator

/-!
Grammars written as data. A term describes a parser: a token, a sequence, a rule by name, steps
without a name, or a rule of one of the grammars at hand. A step is one thing to do with a
scanner, with the steps that follow in each case. Doing a step gives reports, which may hold the
values that terms yield.
-/
namespace Descent.Session

inductive Builtin
  | calculator (r : Calculator.Rule)
  | json (r : Json.Rule)

mutual

inductive Term
  | token (t : Token)
  | literals (texts : List String)
  /-- Literals whose values are kept side by side rather than in a list. -/
  | literalTuple (texts : List String)
  | stages (terms : List Term)
  | tuple (terms : List Term)
  | named (rule : String)
  | steps (body : List Step)
  | builtin (b : Builtin)

inductive Step
  | parse (target : Term) (args : List Argument) (next : List Step)
  | attempt (target : Term) (args : List Argument) (next otherwise : List Step)
  | peek (target : Term) (args : List Argument) (next otherwise : List Step)
  | skip (target : Term) (args : List Argument) (next otherwise : List Step)
  /-- Invokes a term until it fails, or succeeds without reading. -/
  | many (target : Term) (args : List Argument) (next : List Step)
  | ifArgument (index : Nat) (value : Argument) (next otherwise : List Step)
  | fail (message : String)
  | forbid (text : String)
  /-- Fails at a place, or where the steps began. -/
  | failAt (message : String) (location : Option Position)
  | advance (count : Nat)
  | advanceArgument (index : Nat)
  | note (message : String)
  | noteAttempt (what : String)
  | takeLog
  | state
  | argument (index : Nat)
  | inspect
  | finish

end

mutual

inductive Datum
  | nothing
  | text (value : String)
  | list (items : List Datum)
  | number (value : Float)
  | json (value : Json.Value)
  | reports (items : List Report)

inductive Report
  | value (d : Datum)
  | failed (f : Failure)
  | peeked (found : Bool)
  | skipped (found : Bool)
  | many (values : List Datum)
  | branch (taken : Bool)
  | nothing
  | log (text : Option String)
  | state (s : Snapshot)
  | argument (a : Option Argument)
  | inspection (text : String)
  | finished

end

/-- The name of the kind of values that grammars written as data yield. -/
def datumKind : String := "oracle::grammar::Value"

def listKind (item : String) : String := "alloc::vec::Vec<" ++ item ++ ">"

/-- Values side by side; one by itself keeps its comma. -/
def tupleKind : List String → String
  | [item] => "(" ++ item ++ ",)"
  | items => "(" ++ ", ".intercalate items ++ ")"

def Builtin.kind : Builtin → String
  | calculator r => Calculator.grammar.kind r
  | json r => Json.grammar.kind r

def Term.kind : Term → String
  | token t => t.kind
  | literals _ => listKind (Token.literal "").kind
  | literalTuple texts => tupleKind (texts.map fun text => (Token.literal text).kind)
  | stages _ => listKind datumKind
  | tuple terms => tupleKind (terms.map fun _ => datumKind)
  | named _ => datumKind
  | steps _ => datumKind
  | builtin b => b.kind

end Descent.Session
