import Descent.Session.Grammar

/-!
Sessions: steps done one after the other on one scanner, outside of any invocation. A step that
fails, or that ends its body early, does not end the session; a broken contract does.
-/
namespace Descent.Session

structure Entry where
  reports : List Report
  location : Position
  depth : Nat
  lastFailure : Option Failure

inductive Item
  | entry (e : Entry)
  | violated (v : Violation)
  | exhausted

/-- The reports of a step, with its failure behind them. -/
def Account.allReports (a : Account) : List Report :=
  match a.ending with
  | .failed f => a.reports ++ [.failed f]
  | _ => a.reports

def item (reports : List Report) (s : Scanner) : Item :=
  .entry ⟨reports, s.location, s.depth, s.lastFailure⟩

/-- Does steps on a scanner, each as the body of an invocation that is not nested. -/
def play (rules : Rules) : List Step → Scanner → List Item × Scanner
  | [], s => ([], s)
  | step :: steps, s =>
    match (grammar rules).runScript (stepScript .start step) s with
    | .finished (.ok account) t =>
      let (items, u) := play rules steps t
      (item account.allReports t :: items, u)
    | .finished (.error f) t =>
      let (items, u) := play rules steps t
      (item [.failed f] t :: items, u)
    | .violated v t => ([.violated v], t)
    | .exhausted => ([.exhausted], s)

/-- The items of a session, and the log at its end. -/
structure Transcript where
  items : List Item
  log : Option String

def run (rules : Rules) (steps : List Step) (s : Scanner) : Transcript :=
  let (items, t) := play rules steps s
  ⟨items, t.takeLog.1⟩

end Descent.Session
