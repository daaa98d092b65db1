import Descent.Text.Quoted
import Descent.Text.Record

/-!
The reasons for which the scanner itself refuses a text. Grammars give messages of their own;
these are the ones that come from tokens, from the bound on nesting, and from text left over.
-/
namespace Descent

inductive Reason
  | unexpectedEnd (literal : String)
  | literalMismatch (literal : String)
  | patternMismatch (pattern : String)
  | notConsumed
  | tooDeep (depth limit : Nat)
deriving DecidableEq, Repr

namespace Reason

def message : Reason → String
  | unexpectedEnd literal => "unexpected EOF while matching literal " ++ Text.quoted literal
  | literalMismatch literal => "literal " ++ Text.quoted literal ++ " did not match"
  | patternMismatch pattern => "pattern " ++ Text.quoted pattern ++ " did not match"
  | notConsumed => "expected end of stream"
  | tooDeep depth limit => s!"recursion limit exceeded: depth {depth} > limit {limit}"

instance : ToString Reason := ⟨message⟩

def inspect : Reason → String
  | unexpectedEnd literal => Text.record "UnexpectedEof" [("literal", Text.quoted literal)]
  | literalMismatch literal => Text.record "LiteralMismatch" [("literal", Text.quoted literal)]
  | patternMismatch pattern => Text.record "PatternMismatch" [("pattern", Text.quoted pattern)]
  | notConsumed => "NotConsumed"
  | tooDeep depth limit =>
    Text.record "RecursionLimitExceeded"
      [("depth", toString depth), ("limit", toString limit)]

end Reason

end Descent
