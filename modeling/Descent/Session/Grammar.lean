import Descent.Session.Step

/-!
What the steps of a grammar written as data do, as scripts. A term is a rule of the grammar; as a
stage of a sequence it is invoked just the same, but its value counts as one of the general
kind. The rules of the grammars at hand are embedded.
-/
namespace Descent.Session

open Script

inductive Rule
  | term (t : Term)
  | stage (t : Term)
  | calculator (r : Calculator.Rule)
  | json (r : Json.Rule)

abbrev Yield : Rule → Type
  | .term _ => Datum
  | .stage _ => Datum
  | .calculator r => Calculator.Yield r
  | .json r => Json.Yield r

def kind : Rule → String
  | .term t => t.kind
  | .stage _ => datumKind
  | .calculator r => Calculator.grammar.kind r
  | .json r => Json.grammar.kind r

/-- The rules of a grammar written as data, by name. -/
abbrev Rules := List (String × List Step)

inductive Ending
  | completed
  | finished
  | failed (f : Failure)

structure Account where
  reports : List Report
  ending : Ending

namespace Account

/-- A single report, after which the next step follows. -/
def one (r : Report) : Account := ⟨[r], .completed⟩

def failed (f : Failure) : Account := ⟨[], .failed f⟩

def behind (r : Report) (a : Account) : Account := { a with reports := r :: a.reports }

end Account

/-- A failure of the running body, with the last failure as the cause. -/
def failure (location : Position) (message : String) : Script Yield Failure :=
  return ⟨location, message, ← get .lastFailure⟩

/-- The values of a term up to its first failure, or up to a value for which nothing is read,
behind those read so far, latest first. Every round but the last reads a character. -/
def manyFrom (target : Term) (args : List Argument) : Nat → List Datum → Script Yield (List Datum)
  | 0, values => return values.reverse
  | rounds + 1, values => do
    let before ← get .location
    let result : Except Failure Datum ← attempt (.rule (Rule.term target)) args
    match result with
    | .error _ => return values.reverse
    | .ok value =>
      let after ← get .location
      if after.offset = before.offset then return (value :: values).reverse
      else manyFrom target args rounds (value :: values)

mutual

/-- Does steps in turn; `origin` is where the body began. -/
def stepsScript (origin : Position) : List Step → Script Yield Account
  | [] => return ⟨[], .completed⟩
  | step :: steps => do
    let account ← stepScript origin step
    match account.ending with
    | .completed =>
      let others ← stepsScript origin steps
      return { others with reports := account.reports ++ others.reports }
    | _ => return account

def stepScript (origin : Position) : Step → Script Yield Account
  | .parse target args next => do
    match ← attempt (.rule (.term target)) args with
    | .ok value => return (← stepsScript origin next).behind (.value value)
    | .error f => return .failed f
  | .attempt target args next otherwise => do
    match ← attempt (.rule (.term target)) args with
    | .ok value => return (← stepsScript origin next).behind (.value value)
    | .error f => return (← stepsScript origin otherwise).behind (.failed f)
  | .peek target args next otherwise =>
    call .peek (.rule (.term target)) args fun found => do
      let account ← if found then stepsScript origin next else stepsScript origin otherwise
      return account.behind (.peeked found)
  | .skip target args next otherwise =>
    call .skip (.rule (.term target)) args fun found => do
      let account ← if found then stepsScript origin next else stepsScript origin otherwise
      return account.behind (.skipped found)
  | .many target args next => do
    let rest ← get .remaining
    let values ← manyFrom target args (rest.length + 1) []
    return (← stepsScript origin next).behind (.many values)
  | .ifArgument index value next otherwise => do
    let taken := (← get .arguments)[index]?.any (· == value)
    let account ← if taken then stepsScript origin next else stepsScript origin otherwise
    return account.behind (.branch taken)
  | .fail message => return .failed (← failure (← get .location) message)
  | .forbid text =>
    return .failed (← failure (← get .location) (Text.quoted text ++ " is not allowed"))
  | .failAt message location => return .failed (← failure (location.getD origin) message)
  | .advance count => do
    move count
    return .one .nothing
  | .advanceArgument index => do
    match (← get .arguments)[index]? with
    | some (.int n) =>
      if 0 ≤ n then
        move n.toNat
        return .one .nothing
      else return .one .nothing
    | _ => return .one .nothing
  | .note message => do
    log message
    return .one .nothing
  | .noteAttempt what => do
    logAttempt what
    return .one .nothing
  | .takeLog => takeLog fun text => return .one (.log text)
  | .state => return .one (.state (← snapshot))
  | .argument index => return .one (.argument (← get .arguments)[index]?)
  | .inspect => return .one (.inspection (← snapshot).inspect)
  | .finish => return ⟨[.finished], .finished⟩

end

/-- Steps as the body of a rule: a failure of the steps is the failure of the rule. -/
def bodyScript (steps : List Step) : Script Yield Datum := do
  let origin ← get .location
  let account ← stepsScript origin steps
  match account.ending with
  | .failed f => raise f
  | _ => return .reports account.reports

def tokenDatum : (t : Token) → t.Yield → Datum
  | .literal _, text => .text text
  | .anyOf _, _ => .nothing
  | .pattern _, text => .text text
  | .groups _, texts => .list (texts.map .text)

def jsonDatum : (r : Json.Rule) → Json.Yield r → Datum
  | .document, value => .json value
  | .value, value => .json value
  | .object, members => .json (.object members)
  | .array, items => .list (items.map .json)
  | .string, text => .text text
  | .number, x => .number x

def builtinScript : Builtin → Script Yield Datum
  | .calculator r => .number <$> (Calculator.body r).embed Rule.calculator fun _ => id
  | .json r => jsonDatum r <$> (Json.body r).embed Rule.json fun _ => id

def termScript (rules : Rules) : Term → Script Yield Datum
  | .token t => tokenDatum t <$> t.script
  | .literals texts => (fun values => .list (values.map .text)) <$> literals texts
  | .literalTuple texts => (fun row => .list (row.toList fun _ => .text)) <$> literalTuple texts
  | .stages terms => .list <$> sequence (fun t => parse (.rule (Rule.stage t))) terms
  | .tuple terms =>
    (fun row => .list (row.toList fun _ => id)) <$>
      tuple (fun t => parse (.rule (Rule.stage t))) terms
  | .named rule => bodyScript ((rules.lookup rule).getD [])
  | .steps body => bodyScript body
  | .builtin b => builtinScript b

def body (rules : Rules) : (r : Rule) → Script Yield (Yield r)
  | .term t => termScript rules t
  | .stage t => termScript rules t
  | .calculator r => (Calculator.body r).embed Rule.calculator fun _ => id
  | .json r => (Json.body r).embed Rule.json fun _ => id

def grammar (rules : Rules) : Grammar := ⟨Rule, Yield, kind, body rules⟩

end Descent.Session
